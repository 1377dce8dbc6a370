import Honeypot.Json.Text

namespace Honeypot.Json

theorem shortEscape?_of_mem {letter control : Char} (h : (letter, control) ∈ shortEscapes) :
    letter ≠ 'u' ∧ shortEscape? letter = some control := by
  simp only [shortEscapes, List.mem_cons, List.not_mem_nil, or_false, Prod.mk.injEq] at h
  rcases h with ⟨rfl, rfl⟩ | ⟨rfl, rfl⟩ | ⟨rfl, rfl⟩ | ⟨rfl, rfl⟩ | ⟨rfl, rfl⟩ <;>
    exact ⟨by decide, rfl⟩

theorem codeUnit?_hexDigit :
    ∀ n < 0x20, codeUnit? '0' '0' (hexDigit (n / 16)) (hexDigit n) = some n := by
  decide

/-- A character is written as a backslash and a letter, as the number of a control, or as
itself. -/
theorem escapeChar_cases (c : Char) :
    (∃ letter, letter ≠ 'u' ∧ shortEscape? letter = some c ∧ escapeChar c = ['\\', letter]) ∨
    (c.toNat < 0x20 ∧
      escapeChar c = ['\\', 'u', '0', '0', hexDigit (c.toNat / 16), hexDigit c.toNat]) ∨
    (c ≠ '"' ∧ c ≠ '\\' ∧ ¬c.toNat < 0x20 ∧ escapeChar c = [c]) := by
  by_cases hmark : c = '"' ∨ c = '\\'
  · left
    rcases hmark with rfl | rfl <;> exact ⟨_, by decide, rfl, rfl⟩
  · obtain ⟨hquote, hslash⟩ := not_or.mp hmark
    have hplain : ¬(c == '"' || c == '\\') = true := by simp [hquote, hslash]
    by_cases hcontrol : c.toNat < 0x20
    · cases hfound : shortEscapes.find? (·.2 == c) with
      | none =>
          refine .inr (.inl ⟨hcontrol, ?_⟩)
          rw [escapeChar, if_neg hplain, if_pos hcontrol, hfound]
      | some entry =>
          obtain ⟨letter, control⟩ := entry
          obtain rfl : control = c := eq_of_beq (List.find?_some hfound :)
          obtain ⟨hletter, hread⟩ := shortEscape?_of_mem (List.mem_of_find?_eq_some hfound)
          refine .inl ⟨letter, hletter, hread, ?_⟩
          rw [escapeChar, if_neg hplain, if_pos hcontrol, hfound]
    · refine .inr (.inr ⟨hquote, hslash, hcontrol, ?_⟩)
      rw [escapeChar, if_neg hplain, if_neg hcontrol]

def pieceOf (c : Char) : Piece :=
  if escapeChar c = ['\\', 'u', '0', '0', hexDigit (c.toNat / 16), hexDigit c.toNat] then
    .unit c.toNat
  else .char c

theorem splitPieces_escapeChar (found : List Piece) (c : Char) (rest : List Char) :
    splitPieces found (escapeChar c ++ rest) = splitPieces (pieceOf c :: found) rest := by
  rcases escapeChar_cases c with ⟨letter, hletter, hread, hc⟩ | ⟨hcontrol, hc⟩ |
    ⟨_, hslash, hcontrol, hc⟩
  · have hpiece : pieceOf c = .char c := by
      rw [pieceOf, if_neg (by simp [hc])]
    rw [hc, hpiece]
    simp [splitPieces, hletter, hread]
  · have hpiece : pieceOf c = .unit c.toNat := by
      rw [pieceOf, if_pos hc]
    rw [hc, hpiece]
    simp only [List.cons_append, List.nil_append, splitPieces, codeUnit?_hexDigit _ hcontrol]
  · have hpiece : pieceOf c = .char c := by
      rw [pieceOf, if_neg (by simp [hc])]
    have hbad : ¬(c == '\\' || c.toNat < 0x20) = true := by simp [hslash, hcontrol]
    rw [hc, hpiece, List.singleton_append, splitPieces, if_neg hbad]
    · intro a b c' d rest' h
      exact absurd h hslash
    · intro letter rest' h
      exact absurd h hslash

theorem joinPieces_pieceOf (joined : List Char) (c : Char) (rest : List Piece) :
    joinPieces joined (pieceOf c :: rest) = joinPieces (c :: joined) rest := by
  unfold pieceOf
  split
  · rename_i hc
    have hcontrol : c.toNat < 0x20 := by
      rcases escapeChar_cases c with ⟨letter, _, _, h⟩ | ⟨h, _⟩ | ⟨_, _, _, h⟩
      · simp [h] at hc
      · exact h
      · simp [h] at hc
    have hhigh : isHighHalf c.toNat = false := by
      simp only [isHighHalf, Bool.and_eq_false_iff, decide_eq_false_iff_not]
      omega
    have hlow : isLowHalf c.toNat = false := by
      simp only [isLowHalf, Bool.and_eq_false_iff, decide_eq_false_iff_not]
      omega
    rcases rest with _ | ⟨_ | _, rest⟩ <;> simp [joinPieces, hhigh, hlow]
  · rw [joinPieces]

/-- What is written between quotes is read back. -/
theorem readContent?_written (text : String) :
    readContent? (text.toList.flatMap escapeChar) = some (some text) := by
  have hsplit (found : List Piece) (chars : List Char) :
      splitPieces found (chars.flatMap escapeChar) =
        some (found.reverse ++ chars.map pieceOf) := by
    induction chars generalizing found with
    | nil => simp [splitPieces]
    | cons c chars ih =>
        rw [List.flatMap_cons, splitPieces_escapeChar, ih]
        simp
  have hjoin (joined chars : List Char) :
      joinPieces joined (chars.map pieceOf) = some (joined.reverse ++ chars) := by
    induction chars generalizing joined with
    | nil => simp [joinPieces]
    | cons c chars ih =>
        rw [List.map_cons, joinPieces_pieceOf, ih]
        simp
  simp [readContent?, hsplit, hjoin]

end Honeypot.Json
