import GelClient.Proofs.Packet.Read

/-!
# What results cost

A reading action takes bytes off its packet, and what it gives can be charged to them. With
`GetM.Pays credit action cost`, the bytes that the action takes, together with a credit of bytes that were
taken before, cover the cost of its result. Costs become the credit of what follows, so sequences pay in
advance: a length word and the payload behind it are taken by one action and spent by the next. Nothing is
charged to a byte twice, however deep the readers are nested, since a reader of its own has only the bytes
that were taken for it.
-/

namespace GelClient.Packet

namespace GetM

variable {ε α β : Type} {x : GetM ε α} {f : α → GetM ε β} {k l : Nat} {c d : α → Nat} {e : β → Nat}

/-- The cost of a result is covered by the credit and the bytes that the action takes. -/
def Pays (credit : Nat) (action : GetM ε α) (cost : α → Nat) : Prop :=
  ∀ ⦃r a s⦄, action r = .ok a s → cost a + s.rest.length ≤ r.rest.length + credit

/-- More credit covers as much more. -/
theorem Pays.mono (h : Pays k x c) (hle : ∀ a, d a + k ≤ c a + l) : Pays l x d := by
  intro r a s hr
  have hpaid := h hr
  have hmore := hle a
  omega

/-- A result that costs nothing is covered. -/
theorem Pays.free (h : Pays k x c) : Pays k x fun _ => 0 :=
  h.mono fun a => by omega

/-- Doing nothing is covered by the credit. -/
theorem pays_pure {a : α} (h : c a ≤ k) : Pays k (pure a : GetM ε α) c := by
  intro r b s hr
  cases hr
  omega

/-- A failure costs nothing. -/
theorem pays_throw (err : ε) : Pays k (throw err : GetM ε α) c := by
  intro r a s hr
  cases hr

/-- Nothing that would follow a failure costs anything. -/
theorem pays_throw_bind (err : ε) (f : α → GetM ε β) : Pays k ((throw err : GetM ε α) >>= f) e := by
  intro r b s hr
  cases hr

/-- In a sequence, the cost of the first result is the credit of the second action. -/
theorem Pays.bind (hx : Pays k x c) (hf : ∀ a, Pays (c a) (f a) e) : Pays k (x >>= f) e := by
  intro r b s h
  obtain ⟨a, t, hxr, hft⟩ := Actions.bind_eq_ok.mp h
  have hfirst := hx hxr
  have hsecond := hf a hft
  omega

/-- A result may be converted into one that costs no more. -/
theorem Pays.bind_pure {g : α → β} (hx : Pays k x c) (hg : ∀ a, e (g a) ≤ c a) :
    Pays k (x >>= fun a => pure (g a)) e :=
  hx.bind fun a => pays_pure (hg a)

/-- Looking at the packet takes nothing. -/
theorem pays_get : Pays 0 (get : GetM ε Reader) fun _ => 0 := by
  intro r a s hr
  cases hr
  exact Nat.le_of_eq (Nat.zero_add _)

/-- Costs are covered in the same way in a layer above the packets. -/
theorem Pays.lift [OfPacketError ε] {x : Get α} (h : Pays k x c) : Pays k (liftM x : GetM ε α) c :=
  fun _ _ _ hr => h (liftM_eq_ok.mp hr)

/-- An action on a reader of its own spends the bytes of that reader. -/
theorem Pays.onReader (h : Pays 0 x c) (own : Reader) : Pays own.rest.length (onReader own x) c := by
  intro r a s hr
  rw [GetM.onReader] at hr
  split at hr
  next b t hx =>
    cases hr
    have hpaid := h hx
    omega
  next => cases hr

/-- Items that are read one after the other, behind those already found, pay one by one. -/
theorem Pays.collect (h : Pays 0 x c) (count : Nat) (found : List α) :
    Pays (found.map c).sum (GetM.collect x count found) fun items => (items.map c).sum := by
  induction count generalizing found with
  | zero =>
    refine pays_pure (Nat.le_of_eq ?_)
    rw [List.map_reverse, List.sum_reverse]
  | succ count ih =>
    have hitem : Pays (found.map c).sum x fun a => ((a :: found).map c).sum :=
      h.mono fun a => by simp only [List.map_cons, List.sum_cons]; omega
    exact hitem.bind fun a => ih (a :: found)

/-- Items that are read one after the other pay one by one, whatever number was announced. -/
theorem Pays.times (h : Pays 0 x c) (count : Nat) :
    Pays 0 (GetM.times count x) fun items => (items.map c).sum :=
  h.collect count []

/-- The bytes of a packet cover what is read from it. -/
theorem Pays.le_of_runOn (h : Pays 0 x c) {bytes : Bytes} {a : α} (hrun : runOn bytes x = .ok a) :
    c a ≤ bytes.length := by
  rw [runOn] at hrun
  split at hrun
  next b s hx =>
    cases hrun
    have hpaid : c a + s.rest.length ≤ bytes.length + 0 := h hx
    omega
  next => cases hrun

end GetM

namespace Get

open GetM (Pays pays_pure pays_throw)

/-- Taken bytes are worth their number. -/
theorem pays_raw (n : Nat) : Pays 0 (raw n) List.length := by
  intro r bytes s h
  obtain ⟨-, hrest⟩ := rest_of_raw h
  rw [hrest, List.length_append]
  exact Nat.le_refl _

/-- Bytes that are passed over are worth their number. -/
theorem pays_skip (n : Nat) : Pays 0 (skip n) fun _ => n := by
  intro r u s h
  obtain ⟨bytes, t, hbytes, hu⟩ := Actions.bind_eq_ok.mp h
  cases hu
  obtain ⟨hlength, hrest⟩ := rest_of_raw hbytes
  rw [hrest, List.length_append, hlength]
  exact Nat.le_refl _

/-- The rest of a packet is worth its length. -/
theorem pays_rest : Pays 0 rest List.length := by
  intro r bytes s h
  cases h
  exact Nat.le_refl _

/-- A number is worth its width. -/
theorem pays_number (width : Nat) : Pays 0 (number width) fun _ => width := by
  intro r n s h
  obtain ⟨bytes, t, hbytes, hn⟩ := Actions.bind_eq_ok.mp h
  cases hn
  obtain ⟨hlength, hrest⟩ := rest_of_raw hbytes
  rw [hrest, List.length_append, hlength]
  exact Nat.le_refl _

/-- An unsigned number of one byte is worth it. -/
theorem pays_uint8 : Pays 0 uint8 fun _ => 1 := (pays_number 1).bind_pure fun _ => Nat.le_refl _

/-- An unsigned number of two bytes is worth them. -/
theorem pays_uint16 : Pays 0 uint16 fun _ => 2 := (pays_number 2).bind_pure fun _ => Nat.le_refl _

/-- An unsigned number of four bytes is worth them. -/
theorem pays_uint32 : Pays 0 uint32 fun _ => 4 := (pays_number 4).bind_pure fun _ => Nat.le_refl _

/-- An unsigned number of eight bytes is worth them. -/
theorem pays_uint64 : Pays 0 uint64 fun _ => 8 := (pays_number 8).bind_pure fun _ => Nat.le_refl _

/-- A signed number of two bytes is worth them. -/
theorem pays_int16 : Pays 0 int16 fun _ => 2 := pays_uint16.bind_pure fun _ => Nat.le_refl _

/-- A signed number of four bytes is worth them. -/
theorem pays_int32 : Pays 0 int32 fun _ => 4 := pays_uint32.bind_pure fun _ => Nat.le_refl _

/-- A signed number of eight bytes is worth them. -/
theorem pays_int64 : Pays 0 int64 fun _ => 8 := pays_uint64.bind_pure fun _ => Nat.le_refl _

/-- A truth value is worth its byte. -/
theorem pays_bool : Pays 0 bool fun _ => 1 := pays_uint8.bind_pure fun _ => Nat.le_refl _

/-- An identifier is worth its two halves. -/
theorem pays_uuid : Pays 0 uuid fun _ => 16 := by
  refine pays_uint64.bind fun high => ?_
  have hlow : Pays 8 uint64 fun _ => 16 := pays_uint64.mono fun _ => Nat.le_refl _
  exact hlow.bind_pure fun _ => Nat.le_refl _

/-- The encoding of a text is checked without taking bytes. -/
theorem pays_utf8 (bytes : Bytes) : Pays bytes.length (utf8 bytes) fun _ => 0 := by
  rw [utf8]
  split
  · exact pays_pure (Nat.zero_le _)
  · exact pays_throw _

/-- A value behind its length is worth its bytes and those of the length, an absent one those of the
length. -/
theorem pays_block? : Pays 0 block? fun bytes => 4 + (bytes.getD []).length := by
  refine pays_int32.bind fun length => ?_
  split
  · exact pays_pure (Nat.le_refl _)
  · have hraw : Pays 4 (raw length.toNatClampNeg) fun bytes => 4 + bytes.length :=
      (pays_raw _).mono fun bytes => by omega
    exact hraw.bind_pure fun _ => Nat.le_refl _

/-- A value that must be present is worth its bytes and those of its length. -/
theorem pays_block : Pays 0 block fun bytes => 4 + bytes.length := by
  refine pays_int32.bind fun length => ?_
  have hraw : Pays 4 (raw length.toNatClampNeg) fun bytes => 4 + bytes.length :=
    (pays_raw _).mono fun bytes => by omega
  split
  · exact GetM.pays_throw_bind _ _
  · exact hraw

/-- A reader of its own is worth what it holds. -/
theorem pays_window (n : Nat) : Pays 0 (window n) fun own => own.rest.length :=
  (pays_raw n).bind_pure fun _ => Nat.le_refl _

/-- A reader for a value behind its length is worth what it holds and the bytes of the length. -/
theorem pays_window? : Pays 0 window? fun own => 4 + (own.elim 0 fun r => r.rest.length) := by
  refine pays_block?.bind_pure fun bytes => ?_
  cases bytes <;> exact Nat.le_refl _

end Get

end GelClient.Packet
