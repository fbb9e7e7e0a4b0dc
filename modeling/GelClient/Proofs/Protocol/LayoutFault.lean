import GelClient.Proofs.Protocol.Excerpt

/-!
# Errors whose text breaks off

The server says by numbers of its own where an error is. The numbers of the lines are compared with the query before
anything is fetched, the columns are not compared with anything. `DatabaseError.checkedDisplay` fetches each line by its
number and says when there is none; it comes to the same as `DatabaseError.display`, so that never happens. What is left
are faults of the layout, and `DatabaseError.Place.BreaksOff` lists them: a text breaks off exactly at a gutter, an end
column or a line that is too wide, with the first of them.
-/

namespace GelClient

section Lists

variable {α β γ ε ε' : Type}

/-- A list of actions breaks off with the first one that does. -/
private theorem mapM_eq_error_iff {f : α → Except ε β} {items : List α} {err : ε} :
    items.mapM f = .error err ↔
      ∃ (i : Nat) (a : α), items[i]? = some a ∧ f a = .error err ∧
        ∀ j < i, ∀ b, items[j]? = some b → ∃ r, f b = .ok r := by
  induction items with
  | nil => simp [pure, Except.pure]
  | cons a items ih =>
    rw [List.mapM_cons]
    cases ha : f a with
    | error e =>
      change Except.error e = Except.error err ↔ _
      constructor
      · intro he
        exact ⟨0, a, rfl, ha.trans (congrArg Except.error (Except.error.inj he)), nofun⟩
      · rintro ⟨i, b, hb, herr, hearlier⟩
        cases i with
        | zero =>
          cases Option.some.inj hb
          exact congrArg Except.error (Except.error.inj (ha.symm.trans herr))
        | succ i =>
          obtain ⟨r, hr⟩ := hearlier 0 (Nat.succ_pos i) a rfl
          cases ha.symm.trans hr
    | ok r =>
      have hgo : ((do
          let r ← Except.ok r
          let rs ← items.mapM f
          pure (r :: rs)) = Except.error err) ↔ items.mapM f = .error err := by
        change ((items.mapM f).bind fun rs => .ok (r :: rs)) = .error err ↔ _
        cases items.mapM f <;> simp [Except.bind]
      rw [hgo, ih]
      constructor
      · rintro ⟨i, b, hb, herr, hearlier⟩
        refine ⟨i + 1, b, hb, herr, fun j hj c hc => ?_⟩
        cases j with
        | zero => exact ⟨r, (congrArg f (Option.some.inj hc)).symm.trans ha⟩
        | succ j => exact hearlier j (Nat.lt_of_succ_lt_succ hj) c hc
      · rintro ⟨i, b, hb, herr, hearlier⟩
        cases i with
        | zero =>
          cases Option.some.inj hb
          cases ha.symm.trans herr
        | succ i => exact ⟨i, b, hb, herr, fun j hj c hc => hearlier (j + 1) (Nat.succ_lt_succ hj) c hc⟩

/-- A list of actions comes to its end only if each of them does. -/
private theorem exists_eq_ok_of_mapM {f : α → Except ε β} {items : List α} {results : List β}
    (h : items.mapM f = .ok results) : ∀ a ∈ items, ∃ r, f a = .ok r := by
  intro a ha
  obtain ⟨before, after, rfl⟩ := List.append_of_mem ha
  rw [List.mapM_append, List.mapM_cons] at h
  cases hfirst : before.mapM f with
  | error err =>
    rw [hfirst] at h
    cases h
  | ok _ =>
    rw [hfirst] at h
    cases hr : f a with
    | error err =>
      rw [hr] at h
      cases h
    | ok r => exact ⟨r, rfl⟩

/-- A list of actions that only differ in their failures comes to the same but for them. -/
private theorem mapM_map_eq_mapError {f : α → Except ε β} {g : γ → Except ε' β} {key : α → γ}
    {lift : ε → ε'} {items : List α} (h : ∀ a ∈ items, g (key a) = (f a).mapError lift) :
    (items.map key).mapM g = (items.mapM f).mapError lift := by
  induction items with
  | nil => rfl
  | cons a items ih =>
    obtain ⟨ha, hitems⟩ := List.forall_mem_cons.mp h
    rw [List.map_cons, List.mapM_cons, List.mapM_cons, ha, ih hitems]
    cases f a with
    | error e => rfl
    | ok r => cases items.mapM f <;> rfl

end Lists

namespace DatabaseError

variable {e : DatabaseError} {p : Place} {lastText : String}

/-- Why the text of an error is not finished. -/
inductive Panic where
  /-- One was taken off the number zero. -/
  | belowZero
  /-- A line was fetched that is not there. -/
  | outOfRange (index length : Nat)
  /-- A text cannot be laid out. -/
  | layout (fault : LayoutFault)
  deriving DecidableEq, Repr

namespace Place

/-- The line with a number; lines are numbered from one and fetched by their index from zero. -/
def fetch (p : Place) (number : Nat) : Except Panic (List Char) :=
  if number = 0 then .error .belowZero
  else
    match p.lines[number - 1]? with
    | some line => .ok line
    | none => .error (.outOfRange (number - 1) p.lines.length)

/-- One line of the query, fetched by its number, and the carets below it. -/
def fetchedText (p : Place) (number : Nat) : Except Panic String := do
  let line ← p.fetch number
  (p.lineText number line).mapError .layout

/-- The numbered lines of a place, each with the carets below it. -/
def lineTexts (p : Place) : Except LayoutFault (List String) :=
  p.numbered.mapM fun n => p.lineText n.1 n.2

/-- Every field of a text is narrow enough: the gutter with the rule, and what is marked in each line. -/
structure Fits (p : Place) : Prop where
  gutter_le : p.gutter + 3 ≤ widestField
  endColumn_le : p.endColumn ≤ widestField
  length_le : ∀ number line, p.firstLine ≤ number → number < p.lastLine → p.lines[number - 1]? = some line →
    line.length ≤ widestField

/-- Why marks from one column to another cannot be laid out. -/
inductive Overflows (start stop : Nat) : LayoutFault → Prop
  | carets : longestText < stop - start → Overflows start stop (.tooManyCarets (stop - start))
  | width : stop - start ≤ longestText → widestField < stop → Overflows start stop (.tooWide stop)

/-- Where a text breaks off: at the gutter, or at the first line whose marks cannot be laid out. -/
inductive BreaksOff (p : Place) : LayoutFault → Prop
  | gutter : widestField < p.gutter + 3 → BreaksOff p (.tooWide (p.gutter + 3))
  | line {number : Nat} {line : List Char} {fault : LayoutFault} : p.gutter + 3 ≤ widestField →
      p.firstLine ≤ number → number ≤ p.lastLine → p.lines[number - 1]? = some line →
      (∀ earlier shown, p.firstLine ≤ earlier → earlier < number → p.lines[earlier - 1]? = some shown →
        shown.length ≤ widestField) →
      Overflows (if number = p.firstLine then p.firstColumn else 0)
        (if number = p.lastLine then p.endColumn else line.length) fault → BreaksOff p fault

end Place

/-- The text of an error, made with lines that are fetched by their numbers. -/
def checkedDisplay (e : DatabaseError) : Except Panic String :=
  match e.place? with
  | none => .ok e.summary
  | some p => do
    let rule ← p.rule.mapError .layout
    let lines ← (List.range' p.firstLine (p.lastLine + 1 - p.firstLine)).mapM p.fetchedText
    let hint := match e.hint? with
      | some hint => "Hint: " ++ hint
      | none => ""
    return e.summary ++ "\n" ++ rule ++ "\n" ++ String.join lines ++ hint

section Lines

/-- The text of an error whose place is known, with its lines. -/
theorem display_of_place?_eq_some (h : e.place? = some p) :
    e.display = do
      let rule ← p.rule
      let lines ← p.lineTexts
      return e.summary ++ "\n" ++ rule ++ "\n" ++ String.join lines ++ e.hint?.elim "" ("Hint: " ++ ·) := by
  rw [display, h]
  cases e.hint? <;> rfl

/-- The numbered lines are those from the first to the last line of the error. -/
theorem getElem?_numbered_eq_some (h : e.Locates p lastText) {i number : Nat} {line : List Char} :
    p.numbered[i]? = some (number, line) ↔
      number = p.firstLine + i ∧ number ≤ p.lastLine ∧ p.lines[number - 1]? = some line := by
  have hle := h.firstLine_le
  constructor
  · intro hi
    have hlt := (List.getElem?_eq_some_iff.mp hi).1
    rw [length_numbered h] at hlt
    obtain ⟨line', hline, hnumbered⟩ := getElem?_numbered h (Nat.le_add_right p.firstLine i) (by omega)
    rw [Nat.add_sub_cancel_left, hi] at hnumbered
    cases Option.some.inj hnumbered
    exact ⟨rfl, by omega, hline⟩
  · rintro ⟨rfl, hlast, hline⟩
    obtain ⟨line', hline', hnumbered⟩ := getElem?_numbered h (Nat.le_add_right p.firstLine i) hlast
    rw [hline] at hline'
    cases Option.some.inj hline'
    rwa [Nat.add_sub_cancel_left] at hnumbered

/-- The numbers of the numbered lines. -/
private theorem map_fst_numbered (h : e.Locates p lastText) :
    p.numbered.map (·.1) = List.range' p.firstLine (p.lastLine + 1 - p.firstLine) := by
  have hlength := length_numbered h
  rw [Place.numbered, List.length_zip, List.length_range', Nat.min_self] at hlength
  rw [Place.numbered, List.map_fst_zip (Nat.le_of_eq List.length_range'), hlength]

/-- A line of the error is there when it is fetched. -/
theorem fetchedText_of_mem (h : e.Locates p lastText) {n : Nat × List Char} (hn : n ∈ p.numbered) :
    p.fetchedText n.1 = (p.lineText n.1 n.2).mapError .layout := by
  obtain ⟨i, hi⟩ := List.mem_iff_getElem?.mp hn
  obtain ⟨hnumber, -, hline⟩ := (getElem?_numbered_eq_some h).mp hi
  have hpos := h.firstLine_pos
  have hfetch : p.fetch n.1 = .ok n.2 := by
    rw [Place.fetch, if_neg (by omega), hline]
  rw [Place.fetchedText, hfetch]
  rfl

/-- The checks come to nothing: no line is fetched that is not there. -/
theorem checkedDisplay_eq (e : DatabaseError) : e.checkedDisplay = e.display.mapError .layout := by
  rw [checkedDisplay]
  cases hplace : e.place? with
  | none =>
    rw [display, hplace]
    rfl
  | some p =>
    obtain ⟨lastText, h⟩ := place?_eq_some.mp hplace
    have hlines : (List.range' p.firstLine (p.lastLine + 1 - p.firstLine)).mapM p.fetchedText =
        p.lineTexts.mapError .layout := by
      rw [← map_fst_numbered h]
      exact mapM_map_eq_mapError fun n hn => fetchedText_of_mem h hn
    dsimp only
    rw [hlines, display_of_place?_eq_some hplace]
    cases p.rule with
    | error fault => rfl
    | ok rule => cases p.lineTexts <;> cases e.hint? <;> rfl

end Lines

section Faults

/-- A field is laid out unless it is too wide. -/
theorem field_eq_error {width : Nat} {s : Thunk String} {fault : LayoutFault} :
    field width s = .error fault ↔ widestField < width ∧ fault = .tooWide width := by
  unfold field
  split
  next hle => exact ⟨nofun, fun h => absurd h.1 (Nat.not_lt.mpr hle)⟩
  next hgt =>
    constructor
    · intro h
      exact ⟨Nat.lt_of_not_le hgt, (Except.error.inj h).symm⟩
    · rintro ⟨-, rfl⟩
      rfl

/-- Marks are laid out unless they overflow. -/
theorem marks_eq_error {start stop : Nat} {fault : LayoutFault} :
    Place.marks start stop = .error fault ↔ Place.Overflows start stop fault := by
  unfold Place.marks
  split
  next hlong =>
    constructor
    · intro h
      cases h
      exact .carets hlong
    · intro h
      cases h with
      | carets => rfl
      | width hle => exact absurd hlong (Nat.not_lt.mpr hle)
  next hshort =>
    rw [field_eq_error]
    constructor
    · rintro ⟨hwide, rfl⟩
      exact .width (Nat.not_lt.mp hshort) hwide
    · intro h
      cases h with
      | carets hlong => exact absurd hlong hshort
      | width _ hwide => exact ⟨hwide, rfl⟩

/-- Marks overflow if and only if they end in a column that is too far. -/
theorem exists_overflows_iff {start stop : Nat} : (∃ fault, Place.Overflows start stop fault) ↔ widestField < stop := by
  constructor
  · rintro ⟨fault, hfault⟩
    cases hfault with
    | carets hlong =>
      unfold longestText at hlong
      unfold widestField
      omega
    | width _ hwide => exact hwide
  · intro hwide
    by_cases hlong : longestText < stop - start
    · exact ⟨_, .carets hlong⟩
    · exact ⟨_, .width (Nat.not_lt.mp hlong) hwide⟩

/-- A line is laid out unless its marks overflow, if the gutter is not too wide. -/
theorem lineText_eq_error (hgutter : p.gutter + 3 ≤ widestField) {number : Nat} {line : List Char}
    {fault : LayoutFault} :
    p.lineText number line = .error fault ↔
      Place.Overflows (p.columns number line).1 (p.columns number line).2 fault := by
  have hlabel : field p.gutter (toString number) = .ok (Text.padLeft p.gutter (toString number)) :=
    field_of_le (by omega) _
  have hrule : p.rule = .ok (Text.padLeft (p.gutter + 3) "|") := field_of_le hgutter _
  rw [← marks_eq_error, Place.lineText]
  dsimp only
  rw [hlabel, hrule]
  cases Place.marks (p.columns number line).1 (p.columns number line).2 with
  | error _ => exact Iff.rfl
  | ok _ =>
    constructor
    · intro hfault
      cases hfault
    · intro hfault
      cases hfault

/-- A line whose marks end in a column that is not too far is laid out. -/
theorem exists_lineText_eq_ok (hgutter : p.gutter + 3 ≤ widestField) {number : Nat} {line : List Char}
    (hstop : (p.columns number line).2 ≤ widestField) : ∃ text, p.lineText number line = .ok text :=
  ⟨_, lineText_eq hgutter hstop⟩

/-- A line whose marks end in a column that is too far is not laid out. -/
theorem columns_le_of_lineText {number : Nat} {line : List Char} {text : String}
    (hgutter : p.gutter + 3 ≤ widestField) (h : p.lineText number line = .ok text) :
    (p.columns number line).2 ≤ widestField := by
  refine Nat.not_lt.mp fun hwide => ?_
  obtain ⟨fault, hfault⟩ := exists_overflows_iff.mpr hwide
  rw [(lineText_eq_error hgutter).mpr hfault] at h
  cases h

/-- Before the last line, marks end where the line does. -/
theorem columns_snd_of_lt {number : Nat} (h : number < p.lastLine) (line : List Char) :
    (p.columns number line).2 = line.length :=
  if_neg (Nat.ne_of_lt h)

/-- The lines of an error break off at the first one whose marks overflow. -/
theorem lineTexts_eq_error (h : e.Locates p lastText) (hgutter : p.gutter + 3 ≤ widestField)
    {fault : LayoutFault} :
    p.lineTexts = .error fault ↔ p.BreaksOff fault := by
  rw [Place.lineTexts, mapM_eq_error_iff]
  constructor
  · rintro ⟨i, ⟨number, line⟩, hi, hfault, hearlier⟩
    obtain ⟨rfl, hlast, hline⟩ := (getElem?_numbered_eq_some h).mp hi
    refine .line hgutter (Nat.le_add_right _ _) hlast hline ?_ ((lineText_eq_error hgutter).mp hfault)
    intro earlier shown hfirst hbefore hshown
    have hj : p.numbered[earlier - p.firstLine]? = some (earlier, shown) :=
      (getElem?_numbered_eq_some h).mpr ⟨by omega, by omega, hshown⟩
    obtain ⟨text, htext⟩ := hearlier (earlier - p.firstLine) (by omega) (earlier, shown) hj
    rw [← columns_snd_of_lt (by omega : earlier < p.lastLine) shown]
    exact columns_le_of_lineText hgutter htext
  · intro hbreaks
    cases hbreaks with
    | gutter hwide => exact absurd hgutter (Nat.not_le.mpr hwide)
    | @line number line fault _ hfirst hlast hline hearlier hoverflows =>
      refine ⟨number - p.firstLine, (number, line), (getElem?_numbered_eq_some h).mpr ⟨by omega, hlast, hline⟩,
        (lineText_eq_error hgutter).mpr hoverflows, ?_⟩
      rintro j hj ⟨earlier, shown⟩ hshown
      obtain ⟨rfl, -, hshown⟩ := (getElem?_numbered_eq_some h).mp hshown
      refine exists_lineText_eq_ok hgutter ?_
      rw [columns_snd_of_lt (by omega)]
      exact hearlier _ shown (Nat.le_add_right _ _) (by omega) hshown

/-- A text with a place breaks off where the place says. -/
theorem display_eq_error_of_locates (h : e.Locates p lastText) {fault : LayoutFault} :
    e.display = .error fault ↔ p.BreaksOff fault := by
  rw [display_of_place?_eq_some (place?_eq_some.mpr ⟨lastText, h⟩)]
  by_cases hgutter : p.gutter + 3 ≤ widestField
  · have hrule : p.rule = .ok (Text.padLeft (p.gutter + 3) "|") := field_of_le hgutter _
    rw [hrule, ← lineTexts_eq_error h hgutter]
    cases p.lineTexts with
    | error first =>
      constructor
      · intro hfault
        cases hfault
        rfl
      · intro hfault
        cases hfault
        rfl
    | ok _ =>
      constructor
      · intro hfault
        cases hfault
      · intro hfault
        cases hfault
  · have hwide : widestField < p.gutter + 3 := Nat.lt_of_not_le hgutter
    have hrule : p.rule = .error (.tooWide (p.gutter + 3)) := field_eq_error.mpr ⟨hwide, rfl⟩
    rw [hrule]
    constructor
    · intro hfault
      cases hfault
      exact .gutter hwide
    · intro hbreaks
      cases hbreaks with
      | gutter => rfl
      | line hle => exact absurd hle hgutter

/-- A text breaks off if and only if the server reported a place, and at the fault that the place says. -/
theorem display_eq_error_iff {fault : LayoutFault} :
    e.display = .error fault ↔ ∃ p lastText, e.Locates p lastText ∧ p.BreaksOff fault := by
  constructor
  · intro hfault
    cases hplace : e.place? with
    | none =>
      rw [display, hplace] at hfault
      cases hfault
    | some p =>
      obtain ⟨lastText, h⟩ := place?_eq_some.mp hplace
      exact ⟨p, lastText, h, (display_eq_error_of_locates h).mp hfault⟩
  · rintro ⟨p, lastText, h, hbreaks⟩
    exact (display_eq_error_of_locates h).mpr hbreaks

/-- No text breaks off if every field is narrow enough. -/
theorem Place.Fits.not_breaksOff (h : p.Fits) {fault : LayoutFault} : ¬ p.BreaksOff fault := by
  intro hbreaks
  cases hbreaks with
  | gutter hwide => exact absurd h.gutter_le (Nat.not_le.mpr hwide)
  | @line number line fault _ hfirst hlast hline _ hoverflows =>
    have hwide := exists_overflows_iff.mp ⟨fault, hoverflows⟩
    split at hwide
    next => exact absurd h.endColumn_le (Nat.not_le.mpr hwide)
    next hne => exact absurd (h.length_le number line hfirst (by omega) hline) (Nat.not_le.mpr hwide)

/-- Every field of a text that is laid out is narrow enough. -/
theorem fits_of_display (h : e.Locates p lastText) {text : String} (htext : e.display = .ok text) : p.Fits := by
  have hgutter : p.gutter + 3 ≤ widestField := by
    refine Nat.not_lt.mp fun hwide => ?_
    rw [(display_eq_error_of_locates h).mpr (.gutter hwide)] at htext
    cases htext
  have hrule : p.rule = .ok (Text.padLeft (p.gutter + 3) "|") := field_of_le hgutter _
  rw [display_of_place?_eq_some (place?_eq_some.mpr ⟨lastText, h⟩), hrule] at htext
  cases hlines : p.lineTexts with
  | error fault =>
    rw [hlines] at htext
    cases htext
  | ok rows =>
    have hcolumns (number : Nat) (hfirst : p.firstLine ≤ number) (hlast : number ≤ p.lastLine) (line : List Char)
        (hline : p.lines[number - 1]? = some line) : (p.columns number line).2 ≤ widestField := by
      have hi : p.numbered[number - p.firstLine]? = some (number, line) :=
        (getElem?_numbered_eq_some h).mpr ⟨by omega, hlast, hline⟩
      obtain ⟨row, hrow⟩ := exists_eq_ok_of_mapM hlines (number, line) (List.mem_of_getElem? hi)
      exact columns_le_of_lineText hgutter hrow
    refine ⟨hgutter, ?_, fun number line hfirst hlast hline => ?_⟩
    · obtain ⟨line, hline, -⟩ := getElem?_numbered h h.firstLine_le (Nat.le_refl _)
      have hle := hcolumns p.lastLine h.firstLine_le (Nat.le_refl _) line hline
      rwa [Place.columns, if_pos rfl] at hle
    · rw [← columns_snd_of_lt hlast line]
      exact hcolumns number hfirst (Nat.le_of_lt hlast) line hline

end Faults

/-- The text of an error breaks off just where its layout does: no line is fetched that is not there. There is a text
unless the server reported a place whose gutter, end column or lines before the last one are too wide; and then it
breaks off at the first of these, with too many marks if their run is longer than a text can be. -/
theorem exists_checkedDisplay_iff (e : DatabaseError) :
    e.checkedDisplay = e.display.mapError .layout ∧
      ((∃ text, e.checkedDisplay = .ok text) ↔ ∀ p lastText, e.Locates p lastText → p.Fits) ∧
      ∀ panic, e.checkedDisplay = .error panic ↔
        ∃ p lastText fault, e.Locates p lastText ∧ p.BreaksOff fault ∧ panic = .layout fault := by
  refine ⟨checkedDisplay_eq e, ?_⟩
  rw [checkedDisplay_eq]
  cases hdisplay : e.display with
  | error fault =>
    obtain ⟨p, lastText, h, hbreaks⟩ := display_eq_error_iff.mp hdisplay
    refine ⟨⟨nofun, fun hfits => absurd hbreaks (hfits p lastText h).not_breaksOff⟩, fun panic => ⟨?_, ?_⟩⟩
    · intro hpanic
      exact ⟨p, lastText, fault, h, hbreaks, (Except.error.inj hpanic).symm⟩
    · rintro ⟨p', lastText', fault', h', hbreaks', rfl⟩
      have hfault := (display_eq_error_of_locates h').mpr hbreaks'
      rw [hdisplay] at hfault
      cases hfault
      rfl
  | ok text =>
    refine ⟨⟨fun _ p lastText h => fits_of_display h hdisplay, fun _ => ⟨text, rfl⟩⟩, fun panic => ⟨nofun, ?_⟩⟩
    rintro ⟨p, lastText, fault, h, hbreaks, rfl⟩
    exact absurd hbreaks (fits_of_display h hdisplay).not_breaksOff

/-- An error with an end column that no line has. -/
def beyondColumns : DatabaseError where
  severity := .error
  code := ⟨0x04030000⟩
  message := "object does not exist"
  attributes := [(0xFFF3, Utf8.encode "1"), (0xFFF6, Utf8.encode "1"), (0xFFF5, Utf8.encode "0"),
    (0xFFF8, Utf8.encode "18446744073709551615")]
  query := some "select Usr"

/-- The place that is reported with that column. -/
def beyondPlace : Place where
  lines := ["select Usr".toList]
  firstLine := 1
  lastLine := 1
  firstColumn := 0
  endColumn := 18446744073709551615
  gutter := 1

/-- Not every text of an error can be finished: marks up to that column are more than a text can hold. -/
theorem exists_checkedDisplay_eq_error :
    ∃ e : DatabaseError, e.checkedDisplay = .error (.layout (.tooManyCarets 18446744073709551615)) := by
  have hplace : beyondColumns.place? = some beyondPlace := by decide +kernel
  have hbreaks : beyondPlace.BreaksOff (.tooManyCarets 18446744073709551615) := by
    have hcarets : Place.Overflows 0 18446744073709551615 (.tooManyCarets 18446744073709551615) :=
      .carets (by decide)
    refine .line (by decide) (Nat.le_refl 1) (Nat.le_refl 1) rfl ?_ hcarets
    intro earlier shown hfirst hbefore
    exact absurd hfirst (Nat.not_le.mpr hbefore)
  obtain ⟨lastText, h⟩ := place?_eq_some.mp hplace
  refine ⟨beyondColumns, ?_⟩
  rw [checkedDisplay_eq, (display_eq_error_of_locates h).mpr hbreaks]
  rfl

end DatabaseError

end GelClient
