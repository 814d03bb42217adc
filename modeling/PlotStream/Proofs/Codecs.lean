import PlotStream.Encoding.Basic

/-!
Decoding of bytes that arrive bit by bit. A codec looks at the front of what has arrived, and more
may arrive later. It is incremental if it then sees the same character or has not seen any yet. So
the characters of some bytes begin with those of their first part, and the rest of them are spelled
by what the first part leaves together with the bytes to come.
-/

namespace PlotStream.Encoding

namespace Codec

/-- Bytes that spell a text with nothing left over. -/
inductive Spells (codec : Codec) : List UInt8 → List Char → Prop where
  | nil : Spells codec [] []
  | char {b : UInt8} {rest : List UInt8} {c : Char} {more : Nat} {cs : List Char}
      (hfront : codec.front b rest = .char c more) (hrest : Spells codec (rest.drop more) cs) :
      Spells codec (b :: rest) (c :: cs)

/-- A character that is seen with more bytes is seen without them, or it is not finished. -/
def Incremental (codec : Codec) : Prop :=
  ∀ (b : UInt8) (rest later : List UInt8) (c : Char) (more : Nat),
    codec.front b (rest ++ later) = .char c more →
      codec.front b rest = .char c more ∧ more ≤ rest.length ∨
        ∃ reason, codec.front b rest = .unfinished reason

variable {codec : Codec} {bytes later : List UInt8} {text : List Char}

/-- Bytes that decode without a failure spell what they decode to. -/
theorem spells_of_decodeAll {position : Nat}
    (h : Item.decodeAll (codec.items position bytes) = .ok text) : codec.Spells bytes text := by
  induction position, bytes using Codec.items.induct codec generalizing text with
  | case1 position =>
      rw [items, Item.decodeAll] at h
      obtain rfl := Except.ok.inj h
      exact .nil
  | case2 position b rest c more hfront ih =>
      rw [items, hfront] at h
      simp only [Item.decodeAll] at h
      cases hrest : Item.decodeAll (codec.items (position + 1 + more) (rest.drop more)) with
      | error failure =>
          rw [hrest] at h
          cases h
      | ok cs =>
          rw [hrest] at h
          obtain rfl := Except.ok.inj h
          exact .char hfront (ih hrest)
  | case3 position b rest more reason hfront _ =>
      rw [items, hfront] at h
      cases h
  | case4 position b rest reason hfront =>
      rw [items, hfront] at h
      cases h

theorem Spells.decodeAll (h : codec.Spells bytes text) (position : Nat) :
    Item.decodeAll (codec.items position bytes) = .ok text := by
  induction h generalizing position with
  | nil => rw [items, Item.decodeAll]
  | char hfront _ ih =>
      rw [items, hfront]
      simp only [Item.decodeAll, ih]
      rfl

/-- The first part of some bytes gives a first part of their text. What it leaves spells the rest
of the text, together with the bytes to come. -/
theorem Spells.split (hcodec : codec.Incremental) (h : codec.Spells (bytes ++ later) text)
    (position : Nat) :
    ∃ chars left rest, Item.decodeSoFar (codec.items position bytes) = .ok (chars, left) ∧
      text = chars ++ rest ∧ codec.Spells (left ++ later) rest ∧ (later = [] → rest = []) := by
  induction position, bytes using Codec.items.induct codec generalizing text with
  | case1 position =>
      refine ⟨[], [], text, by rw [items, Item.decodeSoFar], rfl, h, ?_⟩
      rintro rfl
      cases h
      rfl
  | case2 position b rest c more hfront ih =>
      rw [List.cons_append] at h
      cases h with
      | @char _ _ c' more' cs hwhole hrest =>
          -- The front of the first part is known from `hfront`, so the two must agree.
          rcases hcodec b rest later c' more' hwhole with ⟨hsame, hmore⟩ | ⟨reason, hother⟩
          · rw [hfront] at hsame
            obtain ⟨rfl, rfl⟩ := Front.char.inj hsame
            rw [List.drop_append_of_le_length hmore] at hrest
            obtain ⟨chars, left, tail, hdecoded, rfl, hspells, hnone⟩ := ih hrest
            refine ⟨c :: chars, left, tail, ?_, rfl, hspells, hnone⟩
            rw [items, hfront]
            simp only [Item.decodeSoFar, hdecoded]
            rfl
          · rw [hfront] at hother
            cases hother
  | case3 position b rest more reason hfront _ =>
      rw [List.cons_append] at h
      cases h with
      | char hwhole _ =>
          rcases hcodec b rest later _ _ hwhole with ⟨hsame, _⟩ | ⟨_, hother⟩
          · rw [hfront] at hsame
            cases hsame
          · rw [hfront] at hother
            cases hother
  | case4 position b rest reason hfront =>
      -- The first part ends inside a character, so all that is left of it waits.
      refine ⟨[], b :: rest, text, ?_, rfl, h, ?_⟩
      · rw [items, hfront]
        rfl
      · rintro rfl
        rw [List.append_nil] at h
        cases h with
        | char hwhole _ =>
            rw [hfront] at hwhole
            cases hwhole

/-- One byte to a character, and nothing else is looked at. -/
structure Single (codec : Codec) : Prop where
  alone (b : UInt8) (rest : List UInt8) : codec.front b rest = codec.front b []
  more_eq {b : UInt8} {c : Char} {more : Nat} (h : codec.front b [] = .char c more) : more = 0

theorem ascii_single : Codec.ascii.Single where
  alone _ _ := rfl
  more_eq h := by
    simp only [ascii] at h
    split at h <;> cases h
    rfl

theorem latin1_single : Codec.latin1.Single where
  alone _ _ := rfl
  more_eq h := by
    cases h
    rfl

theorem codePage_single (table : List Nat) (start : Nat) : (Codec.codePage table start).Single where
  alone _ _ := rfl
  more_eq {b c more} h := by
    simp only [codePage] at h
    generalize (if b.toNat < start then b.toNat else table.getD (b.toNat - start) b.toNat) = n at h
    split at h <;> cases h
    rfl

theorem Single.incremental (hsingle : codec.Single) : codec.Incremental := by
  intro b rest later c more h
  rw [hsingle.alone] at h
  rw [hsingle.alone, h, hsingle.more_eq h]
  exact Or.inl ⟨rfl, Nat.zero_le _⟩

end Codec

/-- The bytes behind a leading one are looked at in order, and no further than the character goes. -/
theorem Utf8.follow_append {needed passed : Nat} {low high : UInt8} {bits : Nat}
    {bytes later : List UInt8} {c : Char} {more : Nat}
    (h : follow needed passed low high bits (bytes ++ later) = .char c more) :
    follow needed passed low high bits bytes = .char c more ∧ more ≤ passed + bytes.length ∨
      ∃ reason, follow needed passed low high bits bytes = .unfinished reason := by
  induction needed generalizing passed low high bits bytes with
  | zero =>
      simp only [follow, Front.char.injEq] at h
      obtain ⟨rfl, rfl⟩ := h
      exact Or.inl ⟨by simp only [follow], Nat.le_add_right _ _⟩
  | succ needed ih =>
      cases bytes with
      | nil => exact Or.inr ⟨_, rfl⟩
      | cons b rest =>
          simp only [List.cons_append, follow] at h ⊢
          split at h
          next hdue =>
            rw [if_pos hdue]
            rcases ih h with ⟨hsame, hmore⟩ | hunfinished
            · refine Or.inl ⟨hsame, ?_⟩
              rw [List.length_cons]
              omega
            · exact Or.inr hunfinished
          · cases h

namespace Codec

theorem utf8_incremental : Codec.utf8.Incremental := by
  intro b rest later c more h
  simp only [utf8, Utf8.front] at h ⊢
  split at h
  next hascii =>
      rw [if_pos hascii]
      cases h
      exact Or.inl ⟨rfl, Nat.zero_le _⟩
  next hascii =>
      rw [if_neg hascii]
      cases hlead : Utf8.lead b with
      | none =>
          rw [hlead] at h
          cases h
      | some announced =>
          obtain ⟨needed, low, high, bits⟩ := announced
          rw [hlead] at h
          simpa using Utf8.follow_append h

theorem utf16_incremental (order : ByteOrder) : (Codec.utf16 order).Incremental := by
  intro b rest later c more h
  simp only [utf16] at h ⊢
  rcases rest with _ | ⟨second, rest⟩
  · exact Or.inr ⟨_, rfl⟩
  simp only [List.cons_append, Utf16.front] at h ⊢
  split at h
  · cases h
  next hlow =>
  rw [if_neg hlow]
  split at h
  next hhigh =>
      rw [if_pos hhigh]
      rcases rest with _ | ⟨third, _ | ⟨fourth, rest⟩⟩
      · exact Or.inr ⟨_, rfl⟩
      · exact Or.inr ⟨_, rfl⟩
      simp only [List.cons_append] at h ⊢
      split at h
      next hpair =>
          rw [if_pos hpair]
          obtain ⟨_, rfl⟩ := Front.char.inj h
          refine Or.inl ⟨h, ?_⟩
          simp only [List.length_cons]
          omega
      · cases h
  next hhigh =>
      rw [if_neg hhigh]
      obtain ⟨_, rfl⟩ := Front.char.inj h
      refine Or.inl ⟨h, ?_⟩
      simp only [List.length_cons]
      omega

theorem utf32_incremental (order : ByteOrder) : (Codec.utf32 order).Incremental := by
  intro b rest later c more h
  simp only [utf32] at h ⊢
  rcases rest with _ | ⟨second, _ | ⟨third, _ | ⟨fourth, rest⟩⟩⟩
  · exact Or.inr ⟨_, rfl⟩
  · exact Or.inr ⟨_, rfl⟩
  · exact Or.inr ⟨_, rfl⟩
  refine Or.inl ⟨h, ?_⟩
  simp -zeta only [List.cons_append, Utf32.front] at h
  extract_lets n at h
  split at h
  · cases h
  split at h
  · cases h
  · obtain ⟨_, rfl⟩ := Front.char.inj h
    simp only [List.length_cons]
    omega

end Codec

end PlotStream.Encoding
