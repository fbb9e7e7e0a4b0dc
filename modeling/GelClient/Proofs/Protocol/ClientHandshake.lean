import GelClient.Proofs.Packet.Bounds
import GelClient.Proofs.Protocol.ClientMessage
import Mathlib.Algebra.Group.Nat.Defs

/-!
# The handshake of a client on the wire

The body of a handshake has two lists, each behind a count of two bytes. The counts are cut off to their width, the
lists are written as they are, and the announced size is that of all that is written; so the size does not show a count
that was cut off. `ClientHandshake.get` reads the body as a server does. It finds the handshake just where both counts
and all texts fit; elsewhere the body is read as something else, or not at all.
-/

namespace GelClient

open Packet (AnnotationsFit Get GetM Reader)
open Packet.GetM (Gives Reads)

/-- What a server learns from the handshake of a client. -/
structure ClientHandshake where
  version : ProtocolVersion
  parameters : List (String × String)
  extensions : List ProtocolExtension
  deriving DecidableEq, Repr

/-- An extension that is asked for by its name, without annotations. -/
def ProtocolExtension.named (name : String) : ProtocolExtension := { name, annotations := [] }

namespace ClientHandshake

/-- Reads the name of an extension and its annotations. -/
def getExtension : Get ProtocolExtension := do
  let name ← Get.text
  let annotations ← Get.annotations
  return { name, annotations }

/-- Reads a count of two bytes and that many extensions. -/
def getExtensions : Get (List ProtocolExtension) := do
  GetM.times (← Get.uint16).toNat getExtension

/-- Reads the body of a handshake. -/
def get : Get ClientHandshake := do
  let major ← Get.uint16
  let minor ← Get.uint16
  let parameters ← Get.annotations
  let extensions ← getExtensions
  return { version := ⟨major, minor⟩, parameters, extensions }

/-- A handshake whose lists fit their counts, and whose texts fit their lengths. -/
structure Fits (c : ClientHandshake) : Prop where
  parameters_fit : AnnotationsFit c.parameters
  extensions_lt : c.extensions.length < 2 ^ 16
  extensions_fit : ∀ e ∈ c.extensions, e.Fits

/-- An extension that is read fits. -/
theorem gives_getExtension : Gives getExtension ProtocolExtension.Fits :=
  Get.gives_text.bind fun _ hname => Get.gives_annotations.bind fun _ hannotations =>
    GetM.gives_pure ⟨hname, hannotations⟩

/-- A handshake that is read fits, whatever it is read from. -/
theorem gives_get : Gives get Fits :=
  (GetM.gives_true Get.uint16).bind fun _ _ => (GetM.gives_true Get.uint16).bind fun _ _ =>
    Get.gives_annotations.bind fun _ hparameters => (Get.gives_counted gives_getExtension).bind fun _ hextensions =>
      GetM.gives_pure ⟨hparameters, hextensions.1, hextensions.2⟩

/-- A pair of texts is read from two fields. -/
theorem reads_pair {a : String × String} (h : (Utf8.encode a.1).length < 2 ^ 31 ∧ (Utf8.encode a.2).length < 2 ^ 31) :
    Reads (do return (← Get.text, ← Get.text)) (prefixedText a.1 ++ prefixedText a.2) a :=
  (reads_prefixedText h.1).bind (reads_prefixedText h.2).bind_pure

/-- An extension without annotations is read from its name and an empty list. -/
theorem reads_getExtension {name : String} (h : (Utf8.encode name).length < 2 ^ 31) :
    Reads getExtension (prefixedText name ++ BigEndian.encode 2 0) (.named name) :=
  (reads_prefixedText h).bind reads_annotations_nil.bind_pure

/-- A handshake that fits is read back from its body. -/
theorem reads_get {version : ProtocolVersion} {parameters : List (String × String)} {extensions : List String}
    (hparameters : AnnotationsFit parameters) (hlength : extensions.length < 2 ^ 16)
    (hextensions : ∀ name ∈ extensions, (Utf8.encode name).length < 2 ^ 31) :
    Reads get (ClientMessage.handshake version parameters extensions).body
      ⟨version, parameters, extensions.map .named⟩ := by
  have hpairs := Get.reads_counted hparameters.length_lt fun a ha => reads_pair (hparameters.text_lt a ha)
  rw [List.map_id'] at hpairs
  have hnames : Reads getExtensions _ _ :=
    Get.reads_counted hlength fun name hname => reads_getExtension (hextensions name hname)
  rw [ClientMessage.body]
  simp only [List.append_assoc]
  refine (Get.reads_uint16 _).bind ?_
  refine (Get.reads_uint16 _).bind ?_
  rw [← List.append_assoc (BigEndian.encode 2 parameters.length)]
  exact hpairs.bind hnames.bind_pure

/-- The texts of a handshake fit their lengths if and only if its parameters and the names of its extensions do. -/
theorem forall_fields_iff {version : ProtocolVersion} {parameters : List (String × String)} {extensions : List String} :
    (∀ field ∈ (ClientMessage.handshake version parameters extensions).fields, field.length < 2 ^ 31) ↔
      (∀ a ∈ parameters, (Utf8.encode a.1).length < 2 ^ 31 ∧ (Utf8.encode a.2).length < 2 ^ 31) ∧
        ∀ name ∈ extensions, (Utf8.encode name).length < 2 ^ 31 := by
  simp only [ClientMessage.fields, List.forall_mem_append, List.forall_mem_flatMap, List.forall_mem_map,
    List.forall_mem_cons, List.not_mem_nil, false_implies, implies_true, and_true]

/-- The body of a message stands behind its type byte and its length. -/
private theorem drop_toBytes (m : ClientMessage) (buffer : Bytes) :
    (buffer ++ m.toBytes).drop (buffer.length + 5) = m.body := by
  have hheader : buffer.length + 5 = (buffer ++ m.kind :: BigEndian.encode 4 (4 + m.announcedSize).toNat).length := by
    rw [List.length_append, List.length_cons, BigEndian.length_encode]
  rw [ClientMessage.toBytes, ← List.append_assoc, hheader, List.drop_left]

/-- What a handshake is written as is read back, up to the last byte, if and only if the numbers of its parameters and
extensions fit two bytes and every text in it fits a signed length. -/
theorem get_write?_iff {version : ProtocolVersion} {parameters : List (String × String)} {extensions : List String}
    {buffer written : Bytes}
    (h : (ClientMessage.handshake version parameters extensions).write? buffer = some written) :
    written.take buffer.length = buffer ∧
      (get (Reader.ofBytes (written.drop (buffer.length + 5))) =
          .ok ⟨version, parameters, extensions.map .named⟩ ⟨[], written.length - (buffer.length + 5)⟩ ↔
        parameters.length < 2 ^ 16 ∧ extensions.length < 2 ^ 16 ∧
          ∀ field ∈ (ClientMessage.handshake version parameters extensions).fields, field.length < 2 ^ 31) := by
  obtain rfl := ClientMessage.write?_eq_some h
  rw [← List.length_drop, drop_toBytes, forall_fields_iff]
  refine ⟨List.take_left, fun hread => ?_, fun ⟨hparameters, hextensions, htexts, hnames⟩ => ?_⟩
  · -- Whatever is read fits, from wherever it is read; so what does not fit is not what is read.
    have hfits := gives_get hread
    refine ⟨hfits.parameters_fit.length_lt, ?_, hfits.parameters_fit.text_lt, fun name hname => ?_⟩
    · simpa using hfits.extensions_lt
    · exact (hfits.extensions_fit (.named name) (List.mem_map_of_mem hname)).name_lt
  · have hreads : Reads get (ClientMessage.handshake version parameters extensions).body _ :=
      reads_get ⟨hparameters, htexts⟩ hextensions hnames
    have hread := hreads [] 0
    rwa [List.append_nil, Nat.zero_add] at hread

/-- The handshake of a user with one extension is read back from behind two bytes. -/
theorem get_write?_iff_user :
    ∃ written, (ClientMessage.handshake .v1 [("user", "edgedb")] ["notebook"]).write? [1, 2] = some written ∧
      get (Reader.ofBytes (written.drop 7)) = .ok ⟨.v1, [("user", "edgedb")], [.named "notebook"]⟩ ⟨[], 40⟩ := by
  have hwritten : (ClientMessage.handshake .v1 [("user", "edgedb")] ["notebook"]).write? [1, 2] =
      some ([1, 2] ++ (ClientMessage.handshake .v1 [("user", "edgedb")] ["notebook"]).toBytes) := by decide
  exact ⟨_, hwritten, (get_write?_iff hwritten).2.mpr ⟨by decide, by decide, by decide⟩⟩

/-- What stands behind the count of extensions that have no names. -/
def namelessExtensions (count : Nat) : Bytes :=
  (List.replicate count "").flatMap fun name => prefixedText name ++ BigEndian.encode 2 0

/-- An extension without a name takes six bytes. -/
private theorem length_namelessExtensions (count : Nat) : (namelessExtensions count).length = count * 6 := by
  have hsize : (prefixedText "" ++ BigEndian.encode 2 0).length = 6 := by decide
  rw [namelessExtensions, List.length_flatMap, List.map_replicate, hsize, List.sum_replicate_nat]

/-- The count of 65536 extensions is that of none. -/
private theorem body_replicate_65536 (version : ProtocolVersion) :
    (ClientMessage.handshake version [] (List.replicate 65536 "")).body =
      (ClientMessage.handshake version [] []).body ++ namelessExtensions 65536 := by
  have hcount : BigEndian.encode 2 65536 = BigEndian.encode 2 0 := by decide
  simp only [ClientMessage.body, List.length_replicate, hcount, List.length_nil, List.flatMap_nil, List.append_nil,
    namelessExtensions]

/-- A handshake of 65536 extensions without names is written and is read as one of no extensions, in front of six
bytes for each of them. -/
theorem exists_get_eq_nil :
    ∃ extensions written rest, (ClientMessage.handshake .v1 [] extensions).write? [] = some written ∧
      extensions.length = 65536 ∧ get (Reader.ofBytes (written.drop 5)) = .ok ⟨.v1, [], []⟩ ⟨rest, 8⟩ ∧
      rest.length = 65536 * 6 := by
  have hbody := body_replicate_65536 .v1
  have hlength : (ClientMessage.handshake .v1 [] (List.replicate 65536 "")).body.length = 8 + 65536 * 6 := by
    rw [hbody, List.length_append, length_namelessExtensions]
    rfl
  have hsize := ClientMessage.toNat_announcedSize
    (m := .handshake .v1 [] (List.replicate 65536 "")) (by rw [hlength]; decide)
  refine ⟨List.replicate 65536 "", _, namelessExtensions 65536, if_pos hsize.symm, List.length_replicate, ?_,
    length_namelessExtensions _⟩
  have hreads : Reads get (ClientMessage.handshake .v1 [] []).body ⟨.v1, [], [].map .named⟩ :=
    reads_get ⟨by decide, by decide⟩ (by decide) (by decide)
  have hdrop := drop_toBytes (.handshake .v1 [] (List.replicate 65536 "")) []
  rw [List.length_nil, Nat.zero_add] at hdrop
  rw [hdrop, hbody]
  exact hreads _ 0

end ClientHandshake

end GelClient
