import JavaUml.Document.Check
import JavaUml.Main
import JavaUml.Proofs.Annotation.Blanks
import JavaUml.Proofs.Assembly.Classifiers
import JavaUml.Proofs.Assembly.References
import JavaUml.Proofs.Declaration.Json
import JavaUml.Proofs.Document.Reachable
import JavaUml.Proofs.Drawing.Agree
import JavaUml.Proofs.Annotation.Plain
import JavaUml.Proofs.Interaction.Diagram
import JavaUml.Proofs.StateMachine.Diagram
import JavaUml.Proofs.Assembly.Plain
import JavaUml.Proofs.Document.Relabel
import JavaUml.Proofs.Drawing.Move
import JavaUml.Proofs.Assembly.Moved
import JavaUml.Proofs.Document.Isomorphism
import JavaUml.Proofs.Drawing.Placement
import JavaUml.Proofs.Assembly.Blocks
import JavaUml.Proofs.Assembly.Items
import JavaUml.Proofs.Assembly.Permuted
import JavaUml.Proofs.Assembly.Contents
import JavaUml.Proofs.Assembly.Extended
import JavaUml.Proofs.Annotation.Without
import JavaUml.Proofs.Assembly.Apart
import JavaUml.Proofs.FileSystem.Places
import JavaUml.Proofs.FileSystem.Writing
import JavaUml.Proofs.CommandLine.Run
import JavaUml.Proofs.Java.Foreign
import JavaUml.Proofs.Java.Silent
import JavaUml.Proofs.CommandLine.Again
import JavaUml.Proofs.Document.Resolution
import JavaUml.Proofs.TypeRef.Grammar
import JavaUml.Proofs.TypeRef.Reading
import JavaUml.Proofs.Json.Presentation
import JavaUml.Proofs.TypeRef.Text
import JavaUml.Proofs.TypeRef.Presentation
import JavaUml.Proofs.Annotation.Presentation
import JavaUml.Proofs.Declaration.Presentation
import JavaUml.Proofs.Drawing.Appending
import JavaUml.Proofs.Registry.Contents
import JavaUml.Proofs.Java.Encoding
import JavaUml.Proofs.Java.Trees
import JavaUml.Proofs.Java.Tokens
import JavaUml.Proofs.TypeRef.Tokens
import JavaUml.Proofs.TypeRef.Spelling
import JavaUml.Proofs.Java.Types
import JavaUml.Proofs.Java.Dimensions
import JavaUml.Proofs.Java.Supertypes
import JavaUml.Proofs.Java.Groups
import JavaUml.Proofs.ClassModel.Names
import JavaUml.Proofs.Document.Traversal
import JavaUml.Proofs.FileSystem.Names
import JavaUml.Proofs.Java.Discovery
import JavaUml.Proofs.Document.Containment
import JavaUml.Proofs.Document.Ids
