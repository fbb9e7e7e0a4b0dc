import GelClient.Scram.Client

/-!
# User names in the first message

A user name may hold commas and equals signs, of which the first message is made. They are escaped in two
rounds, equals signs first: the texts that stand for both characters hold an equals sign themselves, so the
other order would escape it once more. Both rounds together are one pass over the name. What comes out has no
comma, and an equals sign only where an escaped character starts, so the name takes up exactly one attribute
of the message and is read back from it, also if it looks as if it were escaped already.
-/

namespace GelClient.Scram

variable {name e before after : List Char}

/-- The text with `spelling` for every character `c`. -/
def replaced (c : Char) (spelling text : List Char) : List Char :=
  text.flatMap fun d => if d = c then spelling else [d]

/-- A user name escaped in two rounds; one without commas and equals signs is taken as it is. -/
def escapeInRounds (name : List Char) : List Char :=
  if name.any fun c => c = ',' || c = '=' then
    replaced ',' ['=', '2', 'C'] (replaced '=' ['=', '3', 'D'] name)
  else name

/-- The rounds are not to be swapped: the second one would escape the equals sign that the first one wrote. -/
example : replaced '=' ['=', '3', 'D'] (replaced ',' ['=', '2', 'C'] [',']) = ['=', '3', 'D', '2', 'C'] := by
  decide

/-- Replacing in two texts one after the other. -/
private theorem replaced_append (c : Char) (spelling a b : List Char) :
    replaced c spelling (a ++ b) = replaced c spelling a ++ replaced c spelling b :=
  List.flatMap_append

/-- Both rounds together escape each character on its own. -/
theorem replaced_replaced (name : List Char) :
    replaced ',' ['=', '2', 'C'] (replaced '=' ['=', '3', 'D'] name) = escapeName name := by
  induction name with
  | nil => rfl
  | cons c rest ih =>
    have hfirst : replaced '=' ['=', '3', 'D'] (c :: rest) =
        (if c = '=' then ['=', '3', 'D'] else [c]) ++ replaced '=' ['=', '3', 'D'] rest := by
      simp [replaced]
    have hchar : replaced ',' ['=', '2', 'C'] (if c = '=' then ['=', '3', 'D'] else [c]) = escapeChar c := by
      by_cases h : c = '='
      · subst h
        rfl
      · simp [replaced, escapeChar, h]
    rw [escapeName_cons, hfirst, replaced_append, hchar, ih]

/-- A name without commas and equals signs is escaped already. -/
theorem escapeName_eq_self (h : ∀ c ∈ name, c ≠ ',' ∧ c ≠ '=') : escapeName name = name := by
  induction name with
  | nil => rfl
  | cons c rest ih =>
    obtain ⟨hc, hrest⟩ := List.forall_mem_cons.mp h
    have hchar : escapeChar c = [c] := by rw [escapeChar, if_neg hc.2, if_neg hc.1]
    rw [escapeName_cons, hchar, ih hrest, List.singleton_append]

/-- The two rounds are one pass over the name. -/
theorem escapeInRounds_eq (name : List Char) : escapeInRounds name = escapeName name := by
  unfold escapeInRounds
  split
  · exact replaced_replaced name
  next h =>
    refine (escapeName_eq_self fun c hc => ?_).symm
    have hplain := List.any_eq_false.mp (Bool.eq_false_iff.mpr h) c hc
    simpa using hplain

/-- An equals sign behind another character stands in the rest of the text. -/
private theorem exists_of_cons_eq {c : Char} (hc : c ≠ '=') (h : c :: e = before ++ '=' :: after) :
    ∃ front, e = front ++ '=' :: after := by
  cases before with
  | nil => exact absurd (List.cons.inj h).1 hc
  | cons d front => exact ⟨front, (List.cons.inj h).2⟩

/-- Every equals sign of an escaped name starts the text of an escaped character. -/
theorem prefix_of_escapeName_eq (h : escapeName name = before ++ '=' :: after) :
    ['2', 'C'] <+: after ∨ ['3', 'D'] <+: after := by
  induction name generalizing before with
  | nil => simp [escapeName] at h
  | cons c rest ih =>
    rw [escapeName_cons, escapeChar] at h
    -- an escaped character holds its equals sign in front, and the rest of the name is behind it
    have hspelled {x y : Char} (hx : x ≠ '=') (hy : y ≠ '=')
        (h : '=' :: x :: y :: escapeName rest = before ++ '=' :: after) :
        after = x :: y :: escapeName rest ∨ ['2', 'C'] <+: after ∨ ['3', 'D'] <+: after := by
      cases before with
      | nil => exact .inl (List.cons.inj h).2.symm
      | cons d front =>
        obtain ⟨_, h⟩ := exists_of_cons_eq hx (List.cons.inj h).2
        obtain ⟨_, h⟩ := exists_of_cons_eq hy h
        exact .inr (ih h)
    by_cases hequals : c = '='
    · rw [if_pos hequals] at h
      rcases hspelled (by decide) (by decide) h with rfl | h
      · exact .inr ⟨escapeName rest, rfl⟩
      · exact h
    by_cases hcomma : c = ','
    · rw [if_neg hequals, if_pos hcomma] at h
      rcases hspelled (by decide) (by decide) h with rfl | h
      · exact .inl ⟨escapeName rest, rfl⟩
      · exact h
    · rw [if_neg hequals, if_neg hcomma] at h
      obtain ⟨_, h⟩ := exists_of_cons_eq hequals h
      exact ih h

/-- The pieces of the first message between its commas: the header, the name and the nonce. -/
theorem splitOn_initialMessage (p : Primitives) (user nonce : String) :
    (Client.start p user nonce).initialMessage.toList.splitOn ',' =
      ['n'] :: [] :: ('n' :: '=' :: escapeName (p.normal user).toList) ::
        ('r' :: '=' :: nonce.toList).splitOn ',' := by
  have hname : ',' ∉ 'n' :: '=' :: escapeName (p.normal user).toList := by
    simp [comma_notMem_escapeName]
  have hmessage : (Client.start p user nonce).initialMessage.toList =
      ['n'] ++ ',' :: ([] ++ ',' :: (('n' :: '=' :: escapeName (p.normal user).toList) ++
        ',' :: 'r' :: '=' :: nonce.toList)) := by
    simp [Client.start, Client.initialMessage]
  rw [hmessage, List.splitOn_append_cons_self_of_not_mem (by decide),
    List.splitOn_append_cons_self_of_not_mem (by simp), List.splitOn_append_cons_self_of_not_mem hname]

/-- Users with the same first message have the same prepared name, whatever their nonces are. -/
theorem normal_eq_of_initialMessage_eq {p : Primitives} {user other nonce otherNonce : String}
    (h : (Client.start p other otherNonce).initialMessage = (Client.start p user nonce).initialMessage) :
    p.normal other = p.normal user := by
  have hpieces := congrArg (fun message : String => message.toList.splitOn ',') h
  simp only [splitOn_initialMessage, List.cons.injEq, true_and] at hpieces
  have hnames := congrArg unescapeName hpieces.1
  rw [unescapeName_escapeName, unescapeName_escapeName] at hnames
  exact String.toList_inj.mp hnames

/-- Whatever the user is called, the first message has four pieces, of which the third one is the name. The
name is escaped so that it can be read back in one pass, and so tells users apart. -/
theorem initialMessage_holds_name (p : Primitives) (user nonce : String) (hnonce : ',' ∉ nonce.toList) :
    ∃ escaped : List Char,
      (Client.start p user nonce).initialMessage.toList.splitOn ',' =
          [['n'], [], 'n' :: '=' :: escaped, 'r' :: '=' :: nonce.toList] ∧
        escaped = escapeInRounds ((p.prepare? user).getD user).toList ∧
        (∀ before after, escaped = before ++ '=' :: after → ['2', 'C'] <+: after ∨ ['3', 'D'] <+: after) ∧
        String.ofList (unescapeName escaped) = (p.prepare? user).getD user ∧
        ∀ other otherNonce, (p.prepare? other).getD other ≠ (p.prepare? user).getD user →
          (Client.start p other otherNonce).initialMessage ≠ (Client.start p user nonce).initialMessage := by
  have hlast : ',' ∉ 'r' :: '=' :: nonce.toList := by simp [hnonce]
  refine ⟨escapeName (p.normal user).toList, ?_, ?_, ?_, ?_, ?_⟩
  · rw [splitOn_initialMessage, List.splitOn_eq_singleton hlast]
  · exact (escapeInRounds_eq _).symm
  · exact fun _ _ h => prefix_of_escapeName_eq h
  · rw [unescapeName_escapeName, String.ofList_toList]
    rfl
  · exact fun _ _ hne h => hne (normal_eq_of_initialMessage_eq h)

/-- A user whose name spells a nonce and an escaped comma sends them as parts of the name. -/
theorem initialMessage_holds_name_forged :
    (Client.start .standard "eve,r=0=2C" "abc").initialMessage = "n,,n=eve=2Cr=3D0=3D2C,r=abc" ∧
      ∃ escaped : List Char,
        "n,,n=eve=2Cr=3D0=3D2C,r=abc".toList.splitOn ',' =
            [['n'], [], 'n' :: '=' :: escaped, ['r', '=', 'a', 'b', 'c']] ∧
          String.ofList (unescapeName escaped) = "eve,r=0=2C" := by
  have hplain : prepare? "eve,r=0=2C" = some "eve,r=0=2C" := prepare?_of_isPlain (by decide)
  have hmessage : (Client.start .standard "eve,r=0=2C" "abc").initialMessage =
      "n,,n=eve=2Cr=3D0=3D2C,r=abc" := by
    simp only [Client.initialMessage, Client.start, Primitives.normal, Primitives.standard, hplain]
    decide
  obtain ⟨escaped, hpieces, -, -, hread, -⟩ :=
    initialMessage_holds_name .standard "eve,r=0=2C" "abc" (by decide)
  rw [hmessage] at hpieces
  refine ⟨hmessage, escaped, hpieces, hread.trans ?_⟩
  simp only [Primitives.standard, hplain]
  rfl

end GelClient.Scram
