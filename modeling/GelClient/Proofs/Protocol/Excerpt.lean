import GelClient.Proofs.Text.Number
import GelClient.Proofs.Utf8
import GelClient.Protocol.DatabaseError

/-!
# Excerpts of queries

The text of a server error shows the lines of the query that the error is in. `DatabaseError.Locates` says what
the server has to report for that, and `DatabaseError.IsShown` what one line looks like, character by character:
the marks stand below the characters that the columns count, whatever the width of the gutter and of the number
is. Everything but the summary is left out if the place is not known.
-/

namespace GelClient

namespace Text

/-- Pushing a character again and again puts a run of it behind a text. -/
private theorem toList_pushn (s : String) (c : Char) (n : Nat) :
    (s.pushn c n).toList = s.toList ++ List.replicate n c := by
  rw [String.pushn_eq_repeat_push]
  induction n with
  | zero => rw [List.replicate_zero, List.append_nil]; rfl
  | succ n ih => rw [Nat.repeat, String.toList_push, ih, List.append_assoc, List.replicate_succ']

/-- Padding puts blanks before a text. -/
theorem toList_padLeft (width : Nat) (s : String) :
    (padLeft width s).toList = List.replicate (width - s.length) ' ' ++ s.toList := by
  rw [padLeft, String.toList_append, toList_pushn]
  rfl

end Text

namespace DatabaseError

variable {e : DatabaseError} {key : UInt16} {text : String} {p : Place}

section Place

/-- The first value of an attribute is a text. -/
def HasText (e : DatabaseError) (key : UInt16) (text : String) : Prop :=
  ∃ earlier value later, e.attributes = earlier ++ (key, value) :: later ∧ (∀ a ∈ earlier, a.1 ≠ key) ∧
    Utf8.decode value = .ok text

/-- The first value of an attribute is the text of a number. -/
def Reports (e : DatabaseError) (key : UInt16) (text : String) (n : Nat) : Prop :=
  e.HasText key text ∧ Text.unsigned? 64 text = some n

/-- Lines are what stands between the line feeds of a text. -/
structure AreLines (text : List Char) (lines : List (List Char)) : Prop where
  intercalate_eq : ['\n'].intercalate lines = text
  notMem : ∀ line ∈ lines, '\n' ∉ line
  ne_nil : lines ≠ []

/-- The query is known, all four positions are reported, and the lines are lines of the query in their order. -/
structure Locates (e : DatabaseError) (p : Place) (lastText : String) : Prop where
  query : ∃ query, e.query = some query ∧ AreLines query.toList p.lines
  firstLine : ∃ text, e.Reports 0xFFF3 text p.firstLine
  lastLine : e.Reports 0xFFF6 lastText p.lastLine
  firstColumn : ∃ text, e.Reports 0xFFF5 text p.firstColumn
  endColumn : ∃ text, e.Reports 0xFFF8 text p.endColumn
  firstLine_pos : 1 ≤ p.firstLine
  firstLine_le : p.firstLine ≤ p.lastLine
  lastLine_le : p.lastLine ≤ p.lines.length
  gutter_eq : p.gutter = Utf8.size lastText

/-- The text of an attribute is that of its first value. -/
theorem attributeText?_eq_some : e.attributeText? key = some text ↔ e.HasText key text := by
  rw [attributeText?, Option.bind_eq_some_iff]
  constructor
  · rintro ⟨value, hvalue, htext⟩
    obtain ⟨⟨key', value'⟩, hfind, heq⟩ := Option.map_eq_some_iff.mp hvalue
    obtain ⟨hkey, earlier, later, hsplit, hearlier⟩ := List.find?_eq_some_iff_append.mp hfind
    cases eq_of_beq hkey
    cases heq
    refine ⟨earlier, value', later, hsplit, fun a ha heq => ?_, ?_⟩
    · have hne := hearlier a ha
      rw [beq_iff_eq.mpr heq] at hne
      cases hne
    · cases hdecode : Utf8.decode value' with
      | error err =>
        rw [hdecode] at htext
        cases htext
      | ok read =>
        rw [hdecode] at htext
        cases htext
        rfl
  · rintro ⟨earlier, value, later, hsplit, hearlier, hdecode⟩
    refine ⟨value, ?_, by rw [hdecode]; rfl⟩
    have hfind : e.attributes.find? (·.1 == key) = some (key, value) := by
      refine List.find?_eq_some_iff_append.mpr ⟨beq_self_eq_true key, earlier, later, hsplit, fun a ha => ?_⟩
      rw [Bool.not_eq_true', beq_eq_false_iff_ne]
      exact hearlier a ha
    rw [attribute?, hfind]
    rfl

/-- A position is read from the first value of its attribute. -/
theorem position?_eq_some {n : Nat} : e.position? key = some (text, n) ↔ e.Reports key text n := by
  rw [position?, Reports, ← attributeText?_eq_some]
  simp only [Option.bind_eq_bind, Option.bind_eq_some_iff, Option.pure_def, Option.some.injEq, Prod.mk.injEq]
  constructor
  · rintro ⟨raw, hraw, m, hm, rfl, rfl⟩
    exact ⟨hraw, hm⟩
  · rintro ⟨hraw, hn⟩
    exact ⟨text, hraw, n, hn, rfl, rfl⟩

/-- A line has no line feed. -/
private theorem notMem_of_mem_splitLines {text line : List Char} (h : line ∈ splitLines text) : '\n' ∉ line := by
  induction text generalizing line with
  | nil =>
    rw [splitLines, List.splitOn_nil, List.mem_singleton] at h
    rw [h]
    exact List.not_mem_nil
  | cons c text ih =>
    rw [splitLines, List.splitOn_cons_eq_if_modifyHead] at h
    split at h
    next =>
      obtain rfl | h := List.mem_cons.mp h
      · exact List.not_mem_nil
      · exact ih h
    next hc =>
      cases hsplit : List.splitOn '\n' text with
      | nil => exact absurd hsplit (List.splitOn_ne_nil _ _)
      | cons first others =>
        rw [hsplit, List.modifyHead_cons] at h
        have hmem {l : List Char} (hl : l ∈ first :: others) : '\n' ∉ l := ih (by rw [splitLines, hsplit]; exact hl)
        obtain rfl | h := List.mem_cons.mp h
        · rw [List.mem_cons, not_or]
          exact ⟨fun heq => hc (beq_iff_eq.mpr heq.symm), hmem List.mem_cons_self⟩
        · exact hmem (List.mem_cons_of_mem first h)

/-- A text is split into its lines. -/
theorem splitLines_eq_iff {text : List Char} {lines : List (List Char)} :
    splitLines text = lines ↔ AreLines text lines := by
  constructor
  · rintro rfl
    exact ⟨List.intercalate_splitOn '\n', fun _ => notMem_of_mem_splitLines, List.splitOn_ne_nil _ _⟩
  · rintro ⟨rfl, hnotMem, hne⟩
    exact List.splitOn_intercalate '\n' hnotMem hne

/-- A place is found if and only if the server reported one. -/
theorem place?_eq_some : e.place? = some p ↔ ∃ lastText, e.Locates p lastText := by
  simp only [place?, Option.bind_eq_bind, Option.bind_eq_some_iff, Prod.exists, position?_eq_some]
  constructor
  · rintro ⟨query, hquery, firstText, firstLine, hfirst, lastText, lastLine, hlast, startText, firstColumn, hstart,
      endText, endColumn, hend, h⟩
    split at h
    next => cases h
    next hordered =>
      cases h
      have hpos : 1 ≤ firstLine := by omega
      have hle : firstLine ≤ lastLine := by omega
      have hlength : lastLine ≤ (splitLines query.toList).length := by omega
      exact ⟨lastText, ⟨query, hquery, splitLines_eq_iff.mp rfl⟩, ⟨firstText, hfirst⟩, hlast, ⟨startText, hstart⟩,
        ⟨endText, hend⟩, hpos, hle, hlength, rfl⟩
  · rintro ⟨lastText, ⟨query, hquery, hlines⟩, ⟨firstText, hfirst⟩, hlast, ⟨startText, hstart⟩, ⟨endText, hend⟩,
      hpos, hle, hlength, hgutter⟩
    have hordered : ¬ (p.firstLine = 0 ∨ p.lastLine < p.firstLine ∨ p.lines.length < p.lastLine) := by omega
    refine ⟨query, hquery, firstText, p.firstLine, hfirst, lastText, p.lastLine, hlast, startText, p.firstColumn,
      hstart, endText, p.endColumn, hend, ?_⟩
    rw [splitLines_eq_iff.mpr hlines, if_neg hordered, ← hgutter]
    rfl

end Place

section Rows

/-- A line of a query as it is shown: behind its number, and above a row with marks below the columns from `start`
to `stop`. -/
structure IsShown (gutter number start stop : Nat) (chars numbered marked : List Char) : Prop where
  /-- The number stands on the right of the gutter. -/
  numbered_eq : ∃ blanks, blanks + (toString number).length = gutter ∧
    numbered = ' ' :: (List.replicate blanks ' ' ++ (toString number).toList ++ [' ', '|', ' '] ++ chars)
  /-- Behind a margin, a column of the row is one of the line. -/
  char_at : ∀ column, numbered[gutter + 4 + column]? = chars[column]?
  /-- The marks are below the columns of the error. -/
  mark_iff : ∀ column, marked[gutter + 4 + column]? = some '^' ↔ start ≤ column ∧ column < stop
  bar_at : marked[gutter + 2]? = some '|'
  /-- Nothing else is in front of the marks. -/
  blank_at : ∀ i, i < gutter + 4 + start → i < gutter + 4 + stop → i ≠ gutter + 2 → marked[i]? = some ' '
  /-- Nothing is behind the marks. -/
  length_eq : marked.length = gutter + 4 + stop

/-- A line behind its number. -/
def numberedRow (gutter number : Nat) (line : List Char) : String :=
  " " ++ Text.padLeft gutter (toString number) ++ " | " ++ String.ofList line

/-- The marks below a line. -/
def markedRow (gutter start stop : Nat) : String :=
  Text.padLeft (gutter + 3) "|" ++ " " ++ Text.padLeft stop ("".pushn '^' (stop - start))

/-- The characters of a line behind its number. -/
theorem toList_numberedRow (gutter number : Nat) (line : List Char) :
    (numberedRow gutter number line).toList =
      ' ' :: (List.replicate (gutter - (toString number).length) ' ' ++ (toString number).toList ++
        [' ', '|', ' '] ++ line) := by
  have hblank : " ".toList = [' '] := rfl
  have hbar : " | ".toList = [' ', '|', ' '] := rfl
  simp only [numberedRow, String.toList_append, hblank, Text.toList_padLeft, hbar, String.toList_ofList,
    List.cons_append, List.nil_append, List.append_assoc]

/-- The characters of the marks below a line. -/
theorem toList_markedRow (gutter start stop : Nat) :
    (markedRow gutter start stop).toList = List.replicate (gutter + 2) ' ' ++
      ('|' :: ' ' :: (List.replicate (stop - (stop - start)) ' ' ++ List.replicate (stop - start) '^')) := by
  have hblank : " ".toList = [' '] := rfl
  have hbar : "|".toList = ['|'] := rfl
  have hlength : "|".length = 1 := rfl
  have hempty : "".length = 0 := rfl
  simp only [markedRow, String.toList_append, Text.toList_padLeft, hblank, hbar, hlength, hempty, Text.toList_pushn,
    String.length_pushn, String.toList_empty, List.nil_append, Nat.zero_add, List.append_assoc,
    List.cons_append, Nat.add_succ_sub_one]

/-- Marks that are put on the right end of a field begin in their column. -/
theorem getElem?_marks (start stop column : Nat) :
    (List.replicate (stop - (stop - start)) ' ' ++ List.replicate (stop - start) '^')[column]? =
      if stop ≤ column then none else if column < start then some ' ' else some '^' := by
  rw [List.getElem?_append, List.length_replicate, List.getElem?_replicate, List.getElem?_replicate]
  by_cases hbehind : stop ≤ column
  · rw [if_pos hbehind, if_neg (by omega), if_neg (by omega)]
  · rw [if_neg hbehind]
    by_cases hbefore : column < start
    · rw [if_pos hbefore, if_pos (by omega), if_pos (by omega)]
    · rw [if_neg hbefore, if_neg (by omega), if_pos (by omega)]

/-- Behind the margin, the marks stand in their columns. -/
theorem getElem?_markedRow (gutter start stop column : Nat) :
    (markedRow gutter start stop).toList[gutter + 4 + column]? =
      if stop ≤ column then none else if column < start then some ' ' else some '^' := by
  have hindex : gutter + 4 + column - (gutter + 2) = column + 1 + 1 := by omega
  rw [toList_markedRow, List.getElem?_append_right (by rw [List.length_replicate]; omega), List.length_replicate,
    hindex, List.getElem?_cons_succ, List.getElem?_cons_succ, getElem?_marks]

/-- Behind the margin, the characters of the line stand in their columns. -/
theorem getElem?_numberedRow {gutter number : Nat} (h : (toString number).length ≤ gutter) (chars : List Char)
    (column : Nat) : (numberedRow gutter number chars).toList[gutter + 4 + column]? = chars[column]? := by
  have hmargin : (' ' :: (List.replicate (gutter - (toString number).length) ' ' ++ (toString number).toList ++
      [' ', '|', ' '])).length = gutter + 4 := by
    simp only [List.length_cons, List.length_append, List.length_replicate, String.length_toList, List.length_nil]
    omega
  rw [toList_numberedRow, ← List.cons_append, List.getElem?_append_right (by omega), hmargin,
    Nat.add_sub_cancel_left]

/-- A line is shown by the two rows, if its number fits in the gutter. -/
theorem isShown_rows {gutter number : Nat} (start stop : Nat) (line : List Char)
    (h : (toString number).length ≤ gutter) :
    IsShown gutter number start stop line (numberedRow gutter number line).toList
      (markedRow gutter start stop).toList := by
  constructor
  case numbered_eq =>
    exact ⟨gutter - (toString number).length, Nat.sub_add_cancel h, toList_numberedRow gutter number line⟩
  case char_at => exact getElem?_numberedRow h line
  case mark_iff =>
    intro column
    rw [getElem?_markedRow]
    split
    next hbehind => exact ⟨fun heq => absurd heq (by decide), fun hcolumn => by omega⟩
    next hwithin =>
      split
      next hbefore => exact ⟨fun heq => absurd heq (by decide), fun hcolumn => by omega⟩
      next hfrom => exact ⟨fun _ => by omega, fun _ => rfl⟩
  case bar_at =>
    rw [toList_markedRow, List.getElem?_append_right (Nat.le_of_eq List.length_replicate), List.length_replicate,
      Nat.sub_self, List.getElem?_cons_zero]
  case blank_at =>
    intro i hstart hstop hne
    obtain hlt | rfl | hle : i < gutter + 2 ∨ i = gutter + 3 ∨ gutter + 4 ≤ i := by omega
    · rw [toList_markedRow, List.getElem?_append_left (by rw [List.length_replicate]; exact hlt),
        List.getElem?_replicate, if_pos hlt]
    · have hindex : gutter + 3 - (gutter + 2) = 0 + 1 := by omega
      rw [toList_markedRow, List.getElem?_append_right (by rw [List.length_replicate]; omega),
        List.length_replicate, hindex, List.getElem?_cons_succ, List.getElem?_cons_zero]
    · obtain ⟨column, rfl⟩ := Nat.exists_eq_add_of_le hle
      rw [getElem?_markedRow, if_neg (by omega), if_pos (by omega)]
  case length_eq =>
    rw [toList_markedRow]
    simp only [List.length_append, List.length_cons, List.length_replicate]
    omega

end Rows

section Layout

/-- A field that is not too wide is laid out. -/
theorem field_of_le {width : Nat} (h : width ≤ widestField) (s : Thunk String) :
    field width s = .ok (Text.padLeft width s.get) := if_pos h

/-- Marks that end in a column that is not too far are laid out. -/
theorem marks_of_le {start stop : Nat} (h : stop ≤ widestField) :
    Place.marks start stop = .ok (Text.padLeft stop ("".pushn '^' (stop - start))) := by
  have hrun : ¬ longestText < stop - start := by
    unfold longestText
    unfold widestField at h
    omega
  rw [Place.marks, if_neg hrun, field_of_le h]
  rfl

/-- A line is laid out as two rows. -/
theorem lineText_eq (hgutter : p.gutter + 3 ≤ widestField) {number : Nat} {line : List Char}
    (hstop : (p.columns number line).2 ≤ widestField) :
    p.lineText number line = .ok (numberedRow p.gutter number line ++ "\n" ++
      markedRow p.gutter (p.columns number line).1 (p.columns number line).2 ++ "\n") := by
  have hlabel : field p.gutter (toString number) = .ok (Text.padLeft p.gutter (toString number)) :=
    field_of_le (by omega) _
  have hrule : p.rule = .ok (Text.padLeft (p.gutter + 3) "|") := field_of_le hgutter _
  rw [Place.lineText]
  dsimp only
  rw [marks_of_le hstop, hlabel, hrule]
  simp only [numberedRow, markedRow, String.append_assoc]
  rfl

/-- The rows of a line of the query. -/
def rows (p : Place) (number : Nat) (line : List Char) : String × String :=
  (numberedRow p.gutter number line, markedRow p.gutter (p.columns number line).1 (p.columns number line).2)

/-- Rows under each other. -/
def stacked (rows : String × String) : String := rows.1 ++ "\n" ++ rows.2 ++ "\n"

/-- Lines that can all be laid out are laid out one after the other. -/
theorem mapM_lineText {numbered : List (Nat × List Char)}
    (h : ∀ n ∈ numbered, p.lineText n.1 n.2 = .ok (stacked (rows p n.1 n.2))) :
    (numbered.mapM fun (number, line) => p.lineText number line) =
      .ok (numbered.map fun n => stacked (rows p n.1 n.2)) := by
  induction numbered with
  | nil => rfl
  | cons n numbered ih =>
    obtain ⟨hn, hnumbered⟩ := List.forall_mem_cons.mp h
    rw [List.mapM_cons, ih hnumbered]
    dsimp only
    rw [hn]
    rfl

/-- The lines between the first and the last one are numbered. -/
theorem length_numbered {lastText : String} (h : e.Locates p lastText) :
    p.numbered.length = p.lastLine + 1 - p.firstLine := by
  have hpos := h.firstLine_pos
  have hlength := h.lastLine_le
  rw [Place.numbered, List.length_zip, List.length_range', Nat.min_self, List.length_take, List.length_drop]
  omega

/-- The lines of the error, each with its number. -/
theorem getElem?_numbered {lastText : String} (h : e.Locates p lastText) {number : Nat}
    (hfirst : p.firstLine ≤ number) (hlast : number ≤ p.lastLine) :
    ∃ line, p.lines[number - 1]? = some line ∧ p.numbered[number - p.firstLine]? = some (number, line) := by
  have hpos := h.firstLine_pos
  have hlength := h.lastLine_le
  have hlt : number - 1 < p.lines.length := by omega
  have hcount : ((p.lines.drop (p.firstLine - 1)).take (p.lastLine + 1 - p.firstLine)).length =
      p.lastLine + 1 - p.firstLine := by
    rw [List.length_take, List.length_drop]
    omega
  refine ⟨p.lines[number - 1], List.getElem?_eq_getElem hlt, List.getElem?_zip_eq_some.mpr ⟨?_, ?_⟩⟩
  · rw [hcount, List.getElem?_range' (by omega)]
    dsimp only
    congr 1
    omega
  · rw [List.getElem?_take_of_lt (by omega), List.getElem?_drop,
      show p.firstLine - 1 + (number - p.firstLine) = number - 1 by omega]
    exact List.getElem?_eq_getElem hlt

/-- A numbered line is a line of the query. -/
theorem mem_lines_of_mem_numbered {n : Nat × List Char} (h : n ∈ p.numbered) : n.2 ∈ p.lines :=
  List.mem_of_mem_drop (List.mem_of_mem_take (List.of_mem_zip h).2)

/-- The text of an error with a place is made of rows, if the columns and lines are not too long. -/
theorem display_of_place (h : e.place? = some p) (hgutter : p.gutter + 3 ≤ widestField)
    (hstop : p.endColumn ≤ widestField) (hlines : ∀ line ∈ p.lines, line.length ≤ widestField) :
    e.display = .ok (e.summary ++ "\n" ++ Text.padLeft (p.gutter + 3) "|" ++ "\n" ++
      String.join (p.numbered.map fun n => stacked (rows p n.1 n.2)) ++
      e.hint?.elim "" ("Hint: " ++ ·)) := by
  have hrule : p.rule = .ok (Text.padLeft (p.gutter + 3) "|") := field_of_le hgutter _
  have hrows (n : Nat × List Char) (hn : n ∈ p.numbered) :
      p.lineText n.1 n.2 = .ok (stacked (rows p n.1 n.2)) := by
    refine lineText_eq hgutter ?_
    unfold Place.columns
    dsimp only
    split
    · exact hstop
    · exact hlines n.2 (mem_lines_of_mem_numbered hn)
  rw [display, h]
  dsimp only
  rw [hrule, mapM_lineText hrows]
  cases e.hint? <;> rfl

end Layout

section Width

/-- The length of a number is that of its digits. -/
private theorem length_toString (n : Nat) : (toString n).length = (Nat.toDigits 10 n).length := by
  rw [Nat.toString_eq_repr, ← String.length_toList, Nat.toList_repr]

/-- A number is below the power of ten with its length. -/
private theorem length_toString_le {n k : Nat} (hk : 0 < k) : (toString n).length ≤ k ↔ n < 10 ^ k := by
  rw [length_toString]
  exact Nat.length_toDigits_le_iff (by decide) hk

/-- A smaller number is not longer. -/
private theorem length_toString_mono {m n : Nat} (h : m ≤ n) : (toString m).length ≤ (toString n).length := by
  have hpos : 0 < (toString n).length := by
    rw [length_toString]
    exact Nat.length_toDigits_pos
  exact (length_toString_le hpos).mpr (Nat.lt_of_le_of_lt h ((length_toString_le hpos).mp (Nat.le_refl _)))

/-- Each character of a number is one byte. -/
private theorem size_toString (n : Nat) : Utf8.size (toString n) = (toString n).length := by
  apply Utf8.size_eq_length
  intro c hc
  rw [Nat.toString_eq_repr, Nat.toList_repr] at hc
  have hdigit : c.isDigit = true := Nat.isDigit_of_mem_toDigits (by decide) (by decide) hc
  exact Nat.lt_of_le_of_lt (Char.isDigit_iff_toNat.mp hdigit).2 (by decide)

end Width

/-- A text shows the lines of a query that an error is in: the summary, a rule, two rows for each line, and the
hint. -/
structure IsExcerpt (e : DatabaseError) (p : Place) (rule : String) (shown : List (String × String)) (text : String) :
    Prop where
  rule_eq : rule.toList = List.replicate ((toString p.lastLine).length + 2) ' ' ++ ['|']
  length_eq : shown.length = p.lastLine + 1 - p.firstLine
  text_eq : text = e.summary ++ "\n" ++ rule ++ "\n" ++
    String.join (shown.map fun (numbered, marked) => numbered ++ "\n" ++ marked ++ "\n") ++
    e.hint?.elim "" ("Hint: " ++ ·)
  isShown : ∀ number, p.firstLine ≤ number → number ≤ p.lastLine →
    ∃ line numbered marked, p.lines[number - 1]? = some line ∧
      shown[number - p.firstLine]? = some (numbered, marked) ∧
      IsShown (toString p.lastLine).length number (if number = p.firstLine then p.firstColumn else 0)
        (if number = p.lastLine then p.endColumn else line.length) line numbered.toList marked.toList

/-- The text of an error is its summary, unless the server reported a place in the query. Then the lines of the
query are shown, each behind its number and above marks at the reported columns. -/
theorem display_marks_columns (e : DatabaseError) :
    ((¬ ∃ p lastText, e.Locates p lastText) → e.display = .ok e.summary) ∧
      ∀ p : Place, e.Locates p (toString p.lastLine) → p.endColumn < 65536 →
        (∀ line ∈ p.lines, line.length < 65536) →
        ∃ text rule shown, e.display = .ok text ∧ IsExcerpt e p rule shown text := by
  refine ⟨fun h => ?_, fun p h hstop hlines => ?_⟩
  · have hnone : e.place? = none := Option.eq_none_iff_forall_not_mem.mpr fun p hp => h ⟨p, place?_eq_some.mp hp⟩
    rw [display, hnone]
  · have hgutter : p.gutter = (toString p.lastLine).length := h.gutter_eq.trans (size_toString _)
    have hwidth : (toString p.lastLine).length ≤ 20 := by
      apply (length_toString_le (by decide)).mpr
      exact Nat.lt_trans (Text.lt_of_unsigned? h.lastLine.2) (by decide)
    have hnarrow : p.gutter + 3 ≤ widestField := by
      unfold widestField
      omega
    have hplace : e.place? = some p := place?_eq_some.mpr ⟨_, h⟩
    have hdisplay := display_of_place hplace hnarrow (Nat.le_of_lt_succ hstop)
      fun line hline => Nat.le_of_lt_succ (hlines line hline)
    refine ⟨_, Text.padLeft (p.gutter + 3) "|", p.numbered.map fun n => rows p n.1 n.2, hdisplay, ?_⟩
    constructor
    case rule_eq =>
      rw [Text.toList_padLeft, hgutter]
      rfl
    case length_eq => rw [List.length_map, length_numbered h]
    case text_eq =>
      rw [List.map_map]
      rfl
    case isShown =>
      intro number hfirst hlast
      obtain ⟨line, hline, hnumbered⟩ := getElem?_numbered h hfirst hlast
      refine ⟨line, _, _, hline, ?_, isShown_rows _ _ line (length_toString_mono hlast)⟩
      rw [List.getElem?_map, hnumbered, ← hgutter]
      rfl

/-- A misspelled path on the second and the third of four lines. -/
def misspelled : DatabaseError where
  severity := .error
  code := ⟨0x04030000⟩
  message := "object does not exist"
  attributes := [(0xFFF3, Utf8.encode "2"), (0xFFF6, Utf8.encode "3"), (0xFFF5, Utf8.encode "2"),
    (0xFFF8, Utf8.encode "8"), (0x0001, Utf8.encode "did you mean User?")]
  query := some "select count(\n  Usr.name\n  .first)\n"

/-- The place of the misspelled path. -/
def misspelledPlace : Place where
  lines := ["select count(".toList, "  Usr.name".toList, "  .first)".toList, []]
  firstLine := 2
  lastLine := 3
  firstColumn := 2
  endColumn := 8
  gutter := 1

/-- What is shown for the misspelled path. -/
def misspelledText : String :=
  "InvalidReferenceError: object does not exist\n   |\n 2 |   Usr.name\n   |   ^^^^^^^^\n 3 |   .first)\n" ++
    "   | ^^^^^^^^\nHint: did you mean User?"

/-- The lines with the misspelled path are shown. -/
theorem display_marks_columns_misspelled :
    misspelled.Locates misspelledPlace "3" ∧
      ∃ rule shown, IsExcerpt misspelled misspelledPlace rule shown misspelledText := by
  have hplace : misspelled.place? = some misspelledPlace := by decide +kernel
  have hlast : misspelled.position? 0xFFF6 = some ("3", 3) := by decide +kernel
  have htext : misspelled.display.toOption = some misspelledText := by decide +kernel
  obtain ⟨_, h⟩ := place?_eq_some.mp hplace
  have hlocates : misspelled.Locates misspelledPlace "3" :=
    { h with lastLine := position?_eq_some.mp hlast, gutter_eq := by decide }
  obtain ⟨text, rule, shown, hdisplay, hexcerpt⟩ := (display_marks_columns misspelled).2 misspelledPlace hlocates
    (by decide) (by decide)
  rw [hdisplay] at htext
  have heq : text = misspelledText := Option.some.inj htext
  exact ⟨hlocates, rule, shown, heq ▸ hexcerpt⟩

end DatabaseError

end GelClient
