import ScriptRealm.Text.Search

/-!
# Occurrences in texts

Where one list stands in another, and what the search for it finds. The bytes of a text in UTF-8
have an occurrence in those of another text only where the characters have one, so that a search on
bytes and a search on characters stop at the same place.
-/

namespace ScriptRealm.Text

/-! ## First occurrences -/

section

variable {α : Type} {needle s r : List α} {c : α} {p q : Nat}

/-- The first position from which a list goes on with another one. -/
structure FirstAt (needle s : List α) (p : Nat) : Prop where
  occurs : needle <+: s.drop p
  least : ∀ q < p, ¬needle <+: s.drop q

/-- There is one first occurrence at most. -/
theorem FirstAt.unique (hp : FirstAt needle s p) (hq : FirstAt needle s q) : p = q := by
  rcases Nat.lt_trichotomy p q with hlt | heq | hlt
  · exact absurd hp.occurs (hq.least p hlt)
  · exact heq
  · exact absurd hq.occurs (hp.least q hlt)

theorem firstAt_zero (h : needle <+: s) : FirstAt needle s 0 where
  occurs := h
  least _ hq := absurd hq (Nat.not_lt_zero _)

/-- Where a list does not begin with another one, the occurrences are those in its tail. -/
theorem firstAt_succ_iff (h : ¬needle <+: c :: r) :
    FirstAt needle (c :: r) (p + 1) ↔ FirstAt needle r p := by
  constructor
  · exact fun ⟨hoccurs, hleast⟩ => ⟨hoccurs, fun q hq => hleast (q + 1) (Nat.succ_lt_succ hq)⟩
  · rintro ⟨hoccurs, hleast⟩
    refine ⟨hoccurs, fun q hq => ?_⟩
    cases q with
    | zero => exact h
    | succ q => exact hleast q (Nat.lt_of_succ_lt_succ hq)

/-- An occurrence lies inside of the list. -/
theorem FirstAt.add_length_le (h : FirstAt needle s p) : p + needle.length ≤ s.length := by
  have hle := h.occurs.length_le
  rw [List.length_drop] at hle
  rcases Nat.lt_or_ge s.length p with hlt | hge
  · -- only the empty list occurs beyond the end, and that one begins at 0
    have hnil : needle = [] := List.eq_nil_of_length_eq_zero (by omega)
    subst hnil
    exact absurd List.nil_prefix (h.least 0 (by omega))
  · omega

/-- From a first occurrence on, the text reads like the needle. -/
theorem FirstAt.getElem?_eq (h : FirstAt needle s p) {j : Nat} (hj : j < needle.length) :
    s[p + j]? = needle[j]? := by
  rw [← List.getElem?_drop]
  exact (List.prefix_iff_getElem?.1 h.occurs j hj).trans (List.getElem?_eq_getElem hj).symm

end

/-! ## The search -/

section

variable {α : Type} [DecidableEq α]

/-- In nothing, only nothing is found. -/
theorem indexOf?_nil (needle : List α) :
    indexOf? needle [] = if needle = [] then some 0 else none := by
  simp [indexOf?]

theorem indexOf?_of_isPrefix {needle s : List α} (h : needle <+: s) :
    indexOf? needle s = some 0 := by
  cases s with
  | nil => rw [indexOf?_nil, if_pos (List.prefix_nil.1 h)]
  | cons c r => rw [indexOf?, if_pos (List.isPrefixOf_iff_prefix.2 h)]

theorem indexOf?_cons_of_not_isPrefix {needle r : List α} {c : α} (h : ¬needle <+: c :: r) :
    indexOf? needle (c :: r) = (indexOf? needle r).map (· + 1) := by
  rw [indexOf?, if_neg (mt List.isPrefixOf_iff_prefix.1 h)]

/-- The search finds the first occurrence. -/
theorem indexOf?_eq_some_iff (needle s : List α) (p : Nat) :
    indexOf? needle s = some p ↔ FirstAt needle s p := by
  -- an occurrence at the beginning is the first one, whatever comes after it
  have hfound : ∀ {s : List α} {p : Nat}, needle <+: s →
      (indexOf? needle s = some p ↔ FirstAt needle s p) := by
    intro s p hbegins
    rw [indexOf?_of_isPrefix hbegins, Option.some.injEq]
    exact ⟨fun h => h ▸ firstAt_zero hbegins, (firstAt_zero hbegins).unique⟩
  induction s generalizing p with
  | nil =>
    by_cases hbegins : needle <+: []
    · exact hfound hbegins
    · rw [indexOf?_nil, if_neg (mt List.prefix_nil.2 hbegins)]
      have hnone : ¬FirstAt needle [] p := fun h => hbegins (by simpa using h.occurs)
      simp [hnone]
  | cons c r ih =>
    by_cases hbegins : needle <+: c :: r
    · exact hfound hbegins
    · rw [indexOf?_cons_of_not_isPrefix hbegins]
      cases p with
      | zero =>
        have hnone : ¬FirstAt needle (c :: r) 0 := fun h => hbegins h.occurs
        simp [hnone]
      | succ p => simp [firstAt_succ_iff hbegins, ih]

/-- The search finds nothing only where there is nothing. -/
theorem indexOf?_eq_none_iff (needle s : List α) :
    indexOf? needle s = none ↔ ∀ p, ¬needle <+: s.drop p := by
  induction s with
  | nil => simp [indexOf?_nil]
  | cons c r ih =>
    by_cases hbegins : needle <+: c :: r
    · simpa [indexOf?_of_isPrefix hbegins] using ⟨0, hbegins⟩
    · rw [indexOf?_cons_of_not_isPrefix hbegins, Option.map_eq_none_iff, ih]
      constructor
      · intro h p
        cases p with
        | zero => exact hbegins
        | succ p => exact h p
      · exact fun h p => h (p + 1)

/-- Of all occurrences there is a first one. -/
theorem exists_firstAt {needle s : List α} {p : Nat} (h : needle <+: s.drop p) :
    ∃ q, FirstAt needle s q := by
  cases hindex : indexOf? needle s with
  | none => exact absurd h ((indexOf?_eq_none_iff needle s).1 hindex p)
  | some q => exact ⟨q, (indexOf?_eq_some_iff needle s q).1 hindex⟩

end

/-! ## Bytes -/

@[simp] theorem bytes_nil : bytes [] = [] := rfl

@[simp] theorem bytes_cons (c : Char) (r : List Char) :
    bytes (c :: r) = String.utf8EncodeChar c ++ bytes r := List.flatMap_cons

theorem bytes_append (s t : List Char) : bytes (s ++ t) = bytes s ++ bytes t :=
  List.flatMap_append

/-- The bytes of a text are those of its encoding. -/
theorem bytes_toList (s : String) : bytes s.toList = s.toUTF8.data.toList := by
  rw [String.toUTF8_eq_toByteArray, ← String.utf8Encode_toList, List.utf8Encode,
    List.toList_data_toByteArray, bytes]

theorem utf8ByteSize_ofList (s : List Char) :
    (String.ofList s).utf8ByteSize = (bytes s).length := by
  have hbytes := bytes_toList (String.ofList s)
  rw [String.toList_ofList, String.toUTF8_eq_toByteArray] at hbytes
  rw [hbytes, Array.length_toList, ByteArray.size_data, String.size_toByteArray]

theorem bytes_eq_nil_iff (s : List Char) : bytes s = [] ↔ s = [] := by
  cases s <;> simp

/-- What a text begins with, its bytes begin with. -/
theorem isPrefix_bytes {s t : List Char} (h : t <+: s) : bytes t <+: bytes s := by
  obtain ⟨rest, rfl⟩ := h
  rw [bytes_append]
  exact List.prefix_append _ _

/-- Bytes can be read in one way only. -/
theorem isPrefix_bytes_iff (t s : List Char) : bytes t <+: bytes s ↔ t <+: s := by
  refine ⟨fun h => ?_, isPrefix_bytes⟩
  induction t generalizing s with
  | nil => exact List.nil_prefix
  | cons d t ih =>
    cases s with
    | nil => simp at h
    | cons c r =>
      rw [bytes_cons, bytes_cons] at h
      -- decoding gives the first character back, so both begin with the same one
      have hdecode : ∀ (c : Char) (rest : List UInt8),
          (String.utf8EncodeChar c ++ rest).toByteArray.utf8DecodeChar? 0 = some c := by
        intro c rest
        rw [List.toByteArray_append, ByteArray.utf8DecodeChar?_utf8EncodeChar_append]
      obtain ⟨rest, hrest⟩ := id h
      have hd := hdecode d (bytes t ++ rest)
      rw [← List.append_assoc, hrest, hdecode] at hd
      obtain rfl := Option.some.inj hd
      rw [List.prefix_append_right_inj] at h
      exact (List.prefix_cons_inj c).2 (ih r h)

/-- No character begins inside of another one. -/
theorem not_isPrefix_drop_inside {t : List Char} (ht : t ≠ []) {c : Char} {k : Nat} (hpos : 0 < k)
    (hk : k < (String.utf8EncodeChar c).length) (rest : List UInt8) :
    ¬bytes t <+: (String.utf8EncodeChar c ++ rest).drop k := by
  obtain ⟨d, t, rfl⟩ := List.exists_cons_of_ne_nil ht
  intro h
  have hd : 0 < (String.utf8EncodeChar d).length := by
    rw [String.length_utf8EncodeChar]
    exact d.utf8Size_pos
  have hlength : 0 < (bytes (d :: t)).length := by
    rw [bytes_cons, List.length_append]
    omega
  have hfirst := List.prefix_iff_getElem?.1 h 0 hlength
  rw [List.getElem?_drop, Nat.add_zero, List.getElem?_append_left hk,
    List.getElem?_eq_getElem hk, Option.some.injEq] at hfirst
  have hbyte : ((String.utf8EncodeChar c)[k]).IsUTF8FirstByte := by
    simp only [hfirst, bytes_cons, List.getElem_append_left hd]
    exact UInt8.isUTF8FirstByte_getElem_zero_utf8EncodeChar
  exact absurd (UInt8.isUTF8FirstByte_getElem_utf8EncodeChar.1 hbyte) (by omega)

/-- The bytes of a text stand in those of another one only where its characters do. -/
theorem isPrefix_bytes_drop_iff {t : List Char} (ht : t ≠ []) (s : List Char) (k : Nat) :
    bytes t <+: (bytes s).drop k ↔ ∃ p, k = (bytes (s.take p)).length ∧ t <+: s.drop p := by
  constructor
  · intro h
    induction s generalizing k with
    | nil =>
      rw [bytes_nil, List.drop_nil, List.prefix_nil, bytes_eq_nil_iff] at h
      exact absurd h ht
    | cons c r ih =>
      rcases Nat.eq_zero_or_pos k with rfl | hpos
      · exact ⟨0, rfl, (isPrefix_bytes_iff t (c :: r)).1 h⟩
      · rw [bytes_cons] at h
        -- the place is inside of the first character, or counts from its end
        rcases Nat.lt_or_ge k (String.utf8EncodeChar c).length with hlt | hge
        · exact absurd h (not_isPrefix_drop_inside ht hpos hlt _)
        · obtain ⟨k, rfl⟩ := Nat.exists_eq_add_of_le hge
          rw [List.drop_length_add_append] at h
          obtain ⟨p, rfl, hp⟩ := ih k h
          exact ⟨p + 1, by simp, hp⟩
  · rintro ⟨p, rfl, h⟩
    have hsplit : bytes s = bytes (s.take p) ++ bytes (s.drop p) := by
      rw [← bytes_append, List.take_append_drop]
    rw [hsplit, List.drop_left]
    exact isPrefix_bytes h

/-- The first occurrence of bytes is that of the characters, at the place that the bytes of the
characters before it reach to. -/
theorem firstAt_bytes_iff (t s : List Char) (k : Nat) :
    FirstAt (bytes t) (bytes s) k ↔ ∃ p, k = (bytes (s.take p)).length ∧ FirstAt t s p := by
  by_cases ht : t = []
  · subst ht
    constructor
    · exact fun h => ⟨0, h.unique (firstAt_zero List.nil_prefix), firstAt_zero List.nil_prefix⟩
    · rintro ⟨p, rfl, hp⟩
      obtain rfl := hp.unique (firstAt_zero List.nil_prefix)
      exact firstAt_zero List.nil_prefix
  · -- an earlier place in the bytes would be one of an earlier character
    have hfirst : ∀ p, FirstAt t s p → FirstAt (bytes t) (bytes s) (bytes (s.take p)).length := by
      intro p hp
      refine ⟨(isPrefix_bytes_drop_iff ht s _).2 ⟨p, rfl, hp.occurs⟩, fun k hk hoccurs => ?_⟩
      obtain ⟨q, rfl, hq⟩ := (isPrefix_bytes_drop_iff ht s k).1 hoccurs
      have hle : p ≤ q := Nat.le_of_not_lt fun hlt => hp.least q hlt hq
      have hprefix : s.take p <+: s.take q := List.take_prefix_take_left hle
      have hbytes := (isPrefix_bytes hprefix).length_le
      omega
    constructor
    · intro h
      obtain ⟨p, -, hp⟩ := (isPrefix_bytes_drop_iff ht s k).1 h.occurs
      obtain ⟨q, hq⟩ := exists_firstAt hp
      exact ⟨q, h.unique (hfirst q hq), hq⟩
    · rintro ⟨p, rfl, hp⟩
      exact hfirst p hp

/-! ## Positions in characters -/

/-- The bytes of some first characters hold these characters. -/
theorem takeBytes_bytes_take (s : List Char) (p : Nat) :
    takeBytes (bytes (s.take p)).length s = s.take p := by
  induction s generalizing p with
  | nil => rw [takeBytes, List.take_nil]
  | cons c r ih =>
    cases p with
    | zero =>
      have hwidth : ¬(String.utf8EncodeChar c).length ≤ 0 := by
        rw [String.length_utf8EncodeChar, Nat.not_le]
        exact c.utf8Size_pos
      rw [takeBytes, List.take_zero, bytes_nil, List.length_nil, if_neg hwidth]
    | succ p =>
      rw [takeBytes, List.take_succ_cons, bytes_cons, List.length_append, if_pos (by omega),
        Nat.add_sub_cancel_left, ih]

/-- The search among the bytes finds the first occurrence among the characters. -/
theorem position?_eq_some_iff (needle s : List Char) (p : Nat) :
    position? needle s = some p ↔ FirstAt needle s p := by
  have hcount : ∀ {q : Nat}, FirstAt needle s q →
      (takeBytes (bytes (s.take q)).length s).length = q := by
    intro q hq
    have hle := hq.add_length_le
    rw [takeBytes_bytes_take, List.length_take]
    omega
  rw [position?, Option.map_eq_some_iff]
  simp only [indexOf?_eq_some_iff, firstAt_bytes_iff]
  constructor
  · rintro ⟨k, ⟨q, rfl, hq⟩, rfl⟩
    rwa [hcount hq]
  · intro h
    exact ⟨_, ⟨p, rfl, h⟩, hcount h⟩

/-- No position is found exactly if the needle does not occur. -/
theorem position?_eq_none_iff (needle s : List Char) :
    position? needle s = none ↔ ∀ p, ¬needle <+: s.drop p := by
  constructor
  · intro hnone p hp
    obtain ⟨q, hq⟩ := exists_firstAt hp
    rw [(position?_eq_some_iff needle s q).2 hq] at hnone
    cases hnone
  · intro h
    cases hposition : position? needle s with
    | none => rfl
    | some q => exact absurd ((position?_eq_some_iff needle s q).1 hposition).occurs (h q)

end ScriptRealm.Text
