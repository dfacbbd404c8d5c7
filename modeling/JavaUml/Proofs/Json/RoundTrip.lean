/-
# Reading what was written

The machine that makes readings turns the tokens of a value into the reading of the value
(`delivers`).  Together with the tokens of what is written this says what a decoder sees of a
written text: the reading of the value, and nothing behind it (`Whole.decode_write`).  The text on
one line has no control characters (`Whole.printable_compactChars`).
-/
import JavaUml.Json.Decoding
import JavaUml.Proofs.Json.Tokens

namespace JavaUml.Json

/-! ## The machine on the tokens of a value -/

/-- The machine takes the tokens of a value, where one has to come, as the reading of the value. -/
def Delivers (v : Json) : Prop :=
  ∀ (frames : List Frame) (ts : List Token),
    (v.valueTokens ++ ts).foldl State.step (.value frames) =
      ts.foldl State.step (.deliver v.reading frames)

/-- No value begins with the end of an array. -/
lemma valueTokens_eq_cons (v : Json) : ∃ t ts, v.valueTokens = t :: ts ∧ t ≠ .closeArray := by
  cases v <;> exact ⟨_, _, rfl, nofun⟩

lemma step_firstItem {t : Token} (ht : t ≠ .closeArray) (frames : List Frame) :
    State.step (.firstItem frames) t = State.step (.value (.item [] :: frames)) t := by
  cases t with
  | closeArray => exact absurd rfl ht
  | _ => rfl

lemma foldl_firstItem (item : Json) (items : List Json) (frames : List Frame) (ts : List Token) :
    (itemTokens (item :: items) ++ ts).foldl State.step (.firstItem frames) =
      (itemTokens (item :: items) ++ ts).foldl State.step (.value (.item [] :: frames)) := by
  obtain ⟨t, more, hitem, ht⟩ := valueTokens_eq_cons item
  have hfirst : ∃ more, itemTokens (item :: items) = t :: more := by
    cases items with
    | nil => exact ⟨more, hitem⟩
    | cons next items => exact ⟨_, by rw [itemTokens, hitem]; rfl⟩
  obtain ⟨more, hmore⟩ := hfirst
  rw [hmore, List.cons_append, List.foldl_cons, List.foldl_cons, step_firstItem ht]

lemma foldl_itemTokens {item : Json} {items : List Json}
    (h : ∀ v ∈ item :: items, Delivers v) (before : List Reading) (frames : List Frame)
    (ts : List Token) :
    (itemTokens (item :: items) ++ .closeArray :: ts).foldl State.step
        (.value (.item before :: frames)) =
      ts.foldl State.step
        (.deliver (.array (before.reverse ++ readings (item :: items)) .closed) frames) := by
  induction items generalizing item before with
  | nil =>
    rw [itemTokens, h item List.mem_cons_self, List.foldl_cons]
    simp [State.deliver, State.step, readings]
  | cons next items ih =>
    rw [List.forall_mem_cons] at h
    rw [itemTokens, List.append_assoc, h.1, List.cons_append, List.foldl_cons]
    -- the comma waits for the next value of the same array
    have hcomma : State.step (.deliver item.reading (.item before :: frames)) .comma =
        .value (.item (item.reading :: before) :: frames) := rfl
    rw [hcomma, ih h.2]
    simp [readings]

/-- The members of an object, from any state that waits for a key. -/
lemma foldl_memberTokens {member : String × Json} {members : List (String × Json)}
    (h : ∀ m ∈ member :: members, Delivers m.2) {s : State}
    {before : List (Option String × Reading)} {frames : List Frame}
    (hs : ∀ key, s.step (.string key) = .colon before (some key) frames) (ts : List Token) :
    (memberTokens (member :: members) ++ .closeObject :: ts).foldl State.step s =
      ts.foldl State.step
        (.deliver (.object (before.reverse ++ memberReadings (member :: members)) .closed)
          frames) := by
  induction members generalizing member before s with
  | nil =>
    obtain ⟨key, value⟩ := member
    have hvalue : Delivers value := h _ List.mem_cons_self
    simp only [memberTokens, List.cons_append, List.foldl_cons, hs]
    rw [State.step, hvalue, List.foldl_cons]
    simp [State.deliver, State.step, memberReadings]
  | cons next members ih =>
    obtain ⟨key, value⟩ := member
    rw [List.forall_mem_cons] at h
    have hvalue : Delivers value := h.1
    simp only [memberTokens, List.cons_append, List.append_assoc, List.foldl_cons, hs]
    rw [State.step, hvalue, List.foldl_cons]
    have hcomma : State.step (.deliver value.reading (.member before (some key) :: frames)) .comma =
        .laterKey ((some key, value.reading) :: before) frames := rfl
    have hlater (name : String) :
        State.step (.laterKey ((some key, value.reading) :: before) frames) (.string name) =
          .colon ((some key, value.reading) :: before) (some name) frames := rfl
    rw [hcomma, ih h.2 hlater]
    simp [memberReadings]

lemma delivers (v : Json) : Delivers v := by
  induction v using Json.induction with
  | null => exact fun _ _ => rfl
  | boolean b => exact fun _ _ => rfl
  | number n => exact fun _ _ => rfl
  | string s => exact fun _ _ => rfl
  | array items ih =>
    intro frames ts
    rw [valueTokens, List.cons_append, List.foldl_cons, List.append_assoc, List.singleton_append]
    cases items with
    | nil => rfl
    | cons item items =>
      change (itemTokens (item :: items) ++ .closeArray :: ts).foldl State.step
        (.firstItem frames) = _
      rw [foldl_firstItem, foldl_itemTokens ih]
      rfl
  | object members ih =>
    intro frames ts
    rw [valueTokens, List.cons_append, List.foldl_cons, List.append_assoc, List.singleton_append]
    cases members with
    | nil => rfl
    | cons member members =>
      change (memberTokens (member :: members) ++ .closeObject :: ts).foldl State.step
        (.firstKey frames) = _
      have hfirst (name : String) :
          State.step (.firstKey frames) (.string name) = .colon [] (some name) frames := rfl
      rw [foldl_memberTokens ih hfirst]
      rfl

/-- The tokens of a value are read as the value, and nothing follows it. -/
lemma ofTokens_valueTokens (v : Json) :
    TextReading.ofTokens v.valueTokens = ⟨v.reading, false⟩ := by
  have h := delivers v [] []
  rw [List.append_nil] at h
  rw [TextReading.ofTokens, h]
  rfl

/-! ## Texts -/

/-- A decoder of a written value gets the reading of the value, in either layout. -/
lemma Whole.decode_write {α : Type} {v : Json} (h : v.Whole) (decoder : Reading → Decoded α)
    (layout : Layout) : decode decoder (layout.write v) = decoder v.reading := by
  rw [decode, TextReading.ofString, h.tokens_write, ofTokens_valueTokens]
  simp

/-- Reads a text that holds one value, nested as deep as readers allow. -/
def ofText (text : String) : Decoded Json :=
  decode (fun r => orFault (r.value Reading.maxDepth)) text

/-- A written value is read as it was, in either layout. -/
lemma Whole.ofText_write {v : Json} (h : v.Whole) (hdepth : v.depth ≤ Reading.maxDepth)
    (layout : Layout) : ofText (layout.write v) = .ok v := by
  rw [ofText, h.decode_write, value_reading, ifWithin, if_pos hdepth]
  rfl

/-! ## Control characters -/

/-- A character that is no control character below U+0020. -/
def Printable (c : Char) : Prop := 0x20 ≤ c.toNat

instance : DecidablePred Printable := fun c => inferInstanceAs (Decidable (0x20 ≤ c.toNat))

lemma printable_of_all {cs : List Char} (h : cs.all (fun c => decide (Printable c)) = true) :
    ∀ c ∈ cs, Printable c :=
  fun c hc => of_decide_eq_true (List.all_eq_true.mp h c hc)

lemma printable_hexDigit {n : ℕ} (hn : n < 16) : Printable (hexDigit n) := by
  interval_cases n <;> decide

lemma printable_escapeChar (c : Char) : ∀ d ∈ escapeChar c, Printable d := by
  unfold escapeChar
  split_ifs with _ _ _ _ _ _ _ hc
  any_goals exact printable_of_all rfl
  · have hfirst : Printable (hexDigit (c.toNat / 16)) :=
      printable_hexDigit (Nat.div_lt_of_lt_mul (by omega))
    have hsecond : Printable (hexDigit (c.toNat % 16)) :=
      printable_hexDigit (Nat.mod_lt _ (by decide))
    simp only [List.forall_mem_cons, List.not_mem_nil, false_implies, implies_true, and_true]
    exact ⟨by decide, by decide, by decide, by decide, hfirst, hsecond⟩
  · simpa [Printable] using hc

lemma printable_stringChars (s : String) : ∀ c ∈ stringChars s, Printable c := by
  intro c hc
  rw [stringChars, List.mem_cons, List.mem_append, List.mem_flatMap, List.mem_singleton] at hc
  rcases hc with rfl | ⟨d, -, hd⟩ | rfl
  · decide
  · exact printable_escapeChar d c hd
  · decide

lemma printable_compactItems {items : List Json}
    (h : ∀ item ∈ items, ∀ c ∈ item.compactChars, Printable c) :
    ∀ c ∈ compactItems items, Printable c := by
  induction items with
  | nil => exact nofun
  | cons item items ih =>
    rw [List.forall_mem_cons] at h
    cases items with
    | nil => exact h.1
    | cons next items =>
      intro c hc
      rw [compactItems, List.mem_append, List.mem_cons] at hc
      rcases hc with hc | rfl | hc
      · exact h.1 c hc
      · decide
      · exact ih h.2 c hc

lemma printable_compactMembers {members : List (String × Json)}
    (h : ∀ member ∈ members, ∀ c ∈ member.2.compactChars, Printable c) :
    ∀ c ∈ compactMembers members, Printable c := by
  induction members with
  | nil => exact nofun
  | cons member members ih =>
    obtain ⟨key, value⟩ := member
    rw [List.forall_mem_cons] at h
    have hvalue : ∀ c ∈ value.compactChars, Printable c := h.1
    cases members with
    | nil =>
      intro c hc
      rw [compactMembers, List.mem_append, List.mem_cons] at hc
      rcases hc with hc | rfl | hc
      · exact printable_stringChars key c hc
      · decide
      · exact hvalue c hc
    | cons next members =>
      intro c hc
      rw [compactMembers, List.mem_append, List.mem_cons, List.mem_append, List.mem_cons] at hc
      rcases hc with hc | rfl | hc | rfl | hc
      · exact printable_stringChars key c hc
      · decide
      · exact hvalue c hc
      · decide
      · exact ih h.2 c hc

/-- A value on one line has no control characters. -/
lemma Whole.printable_compactChars {v : Json} (h : v.Whole) :
    ∀ c ∈ v.compactChars, Printable c := by
  induction h with
  | null => exact printable_of_all (by decide)
  | boolean b => cases b <;> exact printable_of_all (by decide)
  | @number n _ =>
    intro c hc
    rw [compactChars, Number.text, toList_toString] at hc
    have hdigit := isDigit_of_mem_toDigits hc
    rw [Char.isDigit, Bool.and_eq_true, decide_eq_true_eq] at hdigit
    have hzero : 48 ≤ c.toNat := UInt32.le_iff_toNat_le.mp hdigit.1
    rw [Printable]
    omega
  | string s => exact printable_stringChars s
  | array _ ih =>
    intro c hc
    rw [compactChars, List.mem_cons, List.mem_append, List.mem_singleton] at hc
    rcases hc with rfl | hc | rfl
    · decide
    · exact printable_compactItems ih c hc
    · decide
  | object _ ih =>
    intro c hc
    rw [compactChars, List.mem_cons, List.mem_append, List.mem_singleton] at hc
    rcases hc with rfl | hc | rfl
    · decide
    · exact printable_compactMembers ih c hc
    · decide

end JavaUml.Json
