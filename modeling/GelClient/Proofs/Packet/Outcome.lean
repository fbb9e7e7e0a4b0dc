import GelClient.Proofs.Packet.Read

/-!
# What comes out of some bytes

`GetM.Reads` is about actions that succeed. `GetM.HasOutcome action bytes r` also covers those that fail
on what they find in the bytes: the outcome `r` is a value or an error, and the same whatever follows.
Items that are read one after the other have the outcomes of the single items, up to the first error.
-/

namespace GelClient.Packet.GetM

variable {ε α β ι : Type} {x : GetM ε α} {f : α → GetM ε β} {p q : Bytes} {a : α} {e : ε}

/-- On every packet that starts with `bytes` the action takes these off and gives the value, or fails with
the error. -/
def HasOutcome (action : GetM ε α) (bytes : Bytes) : Except ε α → Prop
  | .ok a => Reads action bytes a
  | .error e => ∀ tail n, ∃ s, action ⟨bytes ++ tail, n⟩ = .error e s

/-- The outcome of an action is what running it gives, whatever stands behind the bytes. -/
theorem HasOutcome.runOn_append {r : Except ε α} (h : HasOutcome x p r) (more : Bytes) :
    runOn (p ++ more) x = r := by
  cases r with
  | ok a => exact Reads.runOn_append h more
  | error e =>
    obtain ⟨s, hs⟩ := h more 0
    rw [runOn, Reader.ofBytes, hs]

/-- The outcome of an action is what running it gives. -/
theorem HasOutcome.runOn_eq {r : Except ε α} (h : HasOutcome x p r) : runOn p x = r := by
  rw [← h.runOn_append [], List.append_nil]

/-- An error is the outcome of an action that throws it. -/
theorem hasOutcome_throw (e : ε) : HasOutcome (throw e : GetM ε α) p (.error e) :=
  fun tail n => ⟨⟨p ++ tail, n⟩, rfl⟩

/-- A sequence whose first action succeeds has the outcome of the rest. -/
theorem Reads.bind_hasOutcome {r : Except ε β} (hx : Reads x p a) (hf : HasOutcome (f a) q r) :
    HasOutcome (x >>= f) (p ++ q) r := by
  cases r with
  | ok b => exact hx.bind hf
  | error e =>
    intro tail n
    obtain ⟨s, hs⟩ := hf tail (n + p.length)
    exact ⟨s, by rw [List.append_assoc, Actions.bind_of_ok (hx (q ++ tail) n), hs]⟩

/-- A sequence whose first action fails has this outcome, whatever stands behind it. -/
theorem HasOutcome.bind_error (h : HasOutcome x p (.error e)) (f : α → GetM ε β) (q : Bytes) :
    HasOutcome (x >>= f) (p ++ q) (.error e) := by
  intro tail n
  obtain ⟨s, hs⟩ := h (q ++ tail) n
  exact ⟨s, by rw [List.append_assoc, Actions.bind_of_error hs]⟩

/-- A value may be converted after the reading. -/
theorem HasOutcome.bind_pure {r : Except ε α} (h : HasOutcome x p r) (g : α → β) :
    HasOutcome (x >>= fun a => pure (g a)) p (r.map g) := by
  cases r with
  | ok a => exact Reads.bind_pure h
  | error e =>
    have hbind := HasOutcome.bind_error h (fun a => pure (g a)) []
    rwa [List.append_nil] at hbind

/-- An action on a reader of its own has the outcome that running it gives. -/
theorem hasOutcome_onReader (x : GetM ε α) (p : Bytes) :
    HasOutcome (onReader (Reader.ofBytes p) x) [] (runOn p x) := by
  rw [runOn]
  cases h : x (Reader.ofBytes p) with
  | ok a r => exact fun tail n => by simp [onReader, h]
  | error e s => exact fun tail n => ⟨⟨tail, n⟩, by simp [onReader, h]⟩

/-- Items that are read one after the other, behind those already found, have the outcomes of the single
items. -/
theorem HasOutcome.collect {item : GetM ε α} {bytes : ι → Bytes} {outcome : ι → Except ε α} {items : List ι}
    (h : ∀ i ∈ items, HasOutcome item (bytes i) (outcome i)) (found : List α) :
    HasOutcome (GetM.collect item items.length found) (items.flatMap bytes)
      ((items.mapM outcome).map (found.reverse ++ ·)) := by
  induction items generalizing found with
  | nil =>
    change Reads (pure found.reverse) [] (found.reverse ++ [])
    rw [List.append_nil]
    exact reads_pure found.reverse
  | cons i items ih =>
    obtain ⟨hi, hitems⟩ := List.forall_mem_cons.mp h
    rw [List.mapM_cons, List.flatMap_cons]
    simp only [List.length_cons, GetM.collect]
    cases hr : outcome i with
    | error e =>
      rw [hr] at hi
      exact hi.bind_error _ _
    | ok a =>
      rw [hr] at hi
      have hrest := Reads.bind_hasOutcome (f := fun a => GetM.collect item items.length (a :: found)) hi
        (ih hitems (a :: found))
      cases hrs : items.mapM outcome with
      | error e =>
        rw [hrs] at hrest
        exact hrest
      | ok as =>
        rw [hrs] at hrest
        change Reads _ _ (found.reverse ++ ([a] ++ as))
        rwa [← List.append_assoc, ← List.reverse_cons]

/-- Items that are read one after the other have the outcomes of the single items, up to the first
error. -/
theorem HasOutcome.times {item : GetM ε α} {bytes : ι → Bytes} {outcome : ι → Except ε α} {items : List ι}
    (h : ∀ i ∈ items, HasOutcome item (bytes i) (outcome i)) :
    HasOutcome (GetM.times items.length item) (items.flatMap bytes) (items.mapM outcome) := by
  have hcollect := HasOutcome.collect h []
  cases hr : items.mapM outcome with
  | error e | ok as =>
    rw [hr] at hcollect
    exact hcollect

end GelClient.Packet.GetM
