/-!
# Splitting texts

A text in two at the first or at the last occurrence of a character, or at the first occurrence
of a piece of text. What it is split at belongs to neither part.
-/

namespace GelClient.Text

/-- The parts before and behind the first occurrence of a character. -/
def splitFirst? (c : Char) : List Char → Option (List Char × List Char)
  | [] => none
  | d :: rest =>
    if d = c then some ([], rest) else (splitFirst? c rest).map fun (a, b) => (d :: a, b)

/-- The parts before and behind the last occurrence of a character. -/
def splitLast? (c : Char) : List Char → Option (List Char × List Char)
  | [] => none
  | d :: rest =>
    match splitLast? c rest with
    | some (a, b) => some (d :: a, b)
    | none => if d = c then some ([], rest) else none

/-- What follows a piece at the front of a text. -/
def dropPiece? : (piece text : List Char) → Option (List Char)
  | [], text => some text
  | c :: piece, d :: text => if c = d then dropPiece? piece text else none
  | _ :: _, [] => none

/-- The parts before and behind the first occurrence of a piece. -/
def splitPiece? (piece : List Char) (text : List Char) : Option (List Char × List Char) :=
  match dropPiece? piece text with
  | some rest => some ([], rest)
  | none =>
    match text with
    | [] => none
    | d :: rest => (splitPiece? piece rest).map fun (a, b) => (d :: a, b)

/-- The parts of a text joined by the character give the text. -/
theorem eq_append_of_splitFirst? {c : Char} {text a b : List Char}
    (h : splitFirst? c text = some (a, b)) : text = a ++ c :: b := by
  induction text generalizing a with
  | nil => simp [splitFirst?] at h
  | cons d rest ih =>
    unfold splitFirst? at h
    split at h
    · next hd => cases h; simp [hd]
    · obtain ⟨p, hp, he⟩ := Option.map_eq_some_iff.mp h
      cases he
      simp [ih hp]

/-- The parts of a text joined by the character give the text. -/
theorem eq_append_of_splitLast? {c : Char} {text a b : List Char}
    (h : splitLast? c text = some (a, b)) : text = a ++ c :: b := by
  induction text generalizing a with
  | nil => simp [splitLast?] at h
  | cons d rest ih =>
    unfold splitLast? at h
    split at h
    · next hs => cases h; simp [ih hs]
    · split at h
      · next hd => cases h; simp [hd]
      · cases h

/-- A text without the character is not split. -/
theorem splitFirst?_eq_none {c : Char} {text : List Char} (h : c ∉ text) : splitFirst? c text = none := by
  induction text with
  | nil => rfl
  | cons d text ih =>
    have hd : d ≠ c := (List.ne_of_not_mem_cons h).symm
    simp [splitFirst?, hd, ih (List.not_mem_of_not_mem_cons h)]

/-- A text is split at the character behind a front that has none. -/
theorem splitFirst?_append {c : Char} {front : List Char} (h : c ∉ front) (rest : List Char) :
    splitFirst? c (front ++ c :: rest) = some (front, rest) := by
  induction front with
  | nil => simp [splitFirst?]
  | cons d front ih =>
    have hd : d ≠ c := (List.ne_of_not_mem_cons h).symm
    simp [splitFirst?, hd, ih (List.not_mem_of_not_mem_cons h)]

/-- A text without the character is not split. -/
theorem splitLast?_eq_none {c : Char} {text : List Char} (h : c ∉ text) : splitLast? c text = none := by
  induction text with
  | nil => rfl
  | cons d text ih =>
    have hd : d ≠ c := (List.ne_of_not_mem_cons h).symm
    simp [splitLast?, hd, ih (List.not_mem_of_not_mem_cons h)]

/-- A text is split at the character before an end that has none. -/
theorem splitLast?_append {c : Char} {rest : List Char} (h : c ∉ rest) (front : List Char) :
    splitLast? c (front ++ c :: rest) = some (front, rest) := by
  induction front with
  | nil => simp [splitLast?, splitLast?_eq_none h]
  | cons d front ih => simp [splitLast?, ih]

/-- Behind a piece stands what it was put before. -/
theorem dropPiece?_append (piece rest : List Char) : dropPiece? piece (piece ++ rest) = some rest := by
  induction piece with
  | nil => rfl
  | cons c piece ih => simp [dropPiece?, ih]

/-- A piece and what follows it give the text. -/
theorem eq_append_of_dropPiece? {piece text rest : List Char} (h : dropPiece? piece text = some rest) :
    text = piece ++ rest := by
  induction piece generalizing text with
  | nil =>
    cases h
    rfl
  | cons c piece ih =>
    cases text with
    | nil => cases h
    | cons d text =>
      rw [dropPiece?] at h
      split at h
      next hc => rw [ih h, hc, List.cons_append]
      next => cases h

/-- The parts of a text joined by the piece give the text. -/
theorem eq_append_of_splitPiece? {piece text a b : List Char} (h : splitPiece? piece text = some (a, b)) :
    text = a ++ (piece ++ b) := by
  induction text generalizing a with
  | nil =>
    unfold splitPiece? at h
    split at h
    next rest hrest =>
      cases h
      rw [List.nil_append]
      exact eq_append_of_dropPiece? hrest
    next => cases h
  | cons d text ih =>
    unfold splitPiece? at h
    split at h
    next rest hrest =>
      cases h
      rw [List.nil_append]
      exact eq_append_of_dropPiece? hrest
    next =>
      obtain ⟨⟨front, rest⟩, hsplit, heq⟩ := Option.map_eq_some_iff.mp h
      cases heq
      rw [ih hsplit, List.cons_append]

/-- A text is split at the piece behind a front without its first character. -/
theorem splitPiece?_append {c : Char} {front : List Char} (h : c ∉ front) (piece rest : List Char) :
    splitPiece? (c :: piece) (front ++ c :: (piece ++ rest)) = some (front, rest) := by
  induction front with
  | nil =>
    have hdrop : dropPiece? (c :: piece) (c :: (piece ++ rest)) = some rest := dropPiece?_append (c :: piece) rest
    rw [List.nil_append, splitPiece?, hdrop]
  | cons d front ih =>
    have hd : c ≠ d := List.ne_of_not_mem_cons h
    rw [List.cons_append, splitPiece?, dropPiece?, if_neg hd]
    dsimp only
    rw [ih (List.not_mem_of_not_mem_cons h)]
    rfl

end GelClient.Text
