import RingOperator.Cluster.Codec
import RingOperator.Proofs.Json.Alike
import RingOperator.Proofs.Json.Fields
import RingOperator.Proofs.Json.RoundTrip

/-!
# Declarations that are read back

The JSON value of a declaration gives the declaration (`Spec.decode_encode`), if its
counts have thirty-two bits, and all that are read have (`Spec.fits_of_decode`). What is read
of a value depends only on what stands under the declared names, at every level of the
declaration (`Spec.respects_decode`).
-/

namespace RingOperator

open Json

/-- A whole number of thirty-two bits. -/
def IsCount (n : Int) : Prop := -2147483648 ≤ n ∧ n ≤ 2147483647

instance (n : Int) : Decidable (IsCount n) := inferInstanceAs (Decidable (_ ∧ _))

theorem isCount_zero : IsCount 0 := by decide

theorem isCount_two : IsCount 2 := by decide

theorem count?_eq_some_iff {value : Json} {n : Int} :
    count? value = some n ↔ value = .integer n ∧ IsCount n := by
  cases value <;> simp [count?, integerIn?, IsCount]
  constructor
  · rintro ⟨fits, rfl⟩
    exact ⟨rfl, fits⟩
  · rintro ⟨rfl, fits⟩
    exact ⟨fits, rfl⟩

namespace Json

variable {α : Type} {decode : Json → Option α} {encode : α → Json}

theorem all?_map {l : List α} (h : ∀ a ∈ l, decode (encode a) = some a) :
    all? decode (l.map encode) = some l := by
  induction l with
  | nil => rfl
  | cons a l ih =>
    obtain ⟨first, rest⟩ := List.forall_mem_cons.1 h
    rw [List.map_cons, all?, first, ih rest]
    rfl

theorem list?_map {l : List α} (h : ∀ a ∈ l, decode (encode a) = some a) :
    list? decode (.array (l.map encode)) = some l := all?_map h

/-- What is decoded of a list is decoded of items. -/
theorem exists_of_list? {value : Json} {l : List α} (h : list? decode value = some l) {a : α}
    (among : a ∈ l) : ∃ item, decode item = some a := by
  cases value with
  | array items =>
    have decoded := @List.mem_map_of_mem _ _ _ _ some among
    rw [← map_of_all?_eq_some h] at decoded
    obtain ⟨item, -, read⟩ := List.mem_map.1 decoded
    exact ⟨item, read⟩
  | _ => cases h

theorem allPlain_map {l : List α} (h : ∀ a ∈ l, (encode a).isPlain = true) :
    allPlain (l.map encode) = true := by
  induction l with
  | nil => rfl
  | cons a l ih =>
    obtain ⟨first, rest⟩ := List.forall_mem_cons.1 h
    rw [List.map_cons, allPlain, first, ih rest, Bool.and_self]

theorem exists_of_required {part : Option Json} {a : α} (h : required decode part = some a) :
    ∃ value, decode value = some a := by
  cases part with
  | none => cases h
  | some value => exact ⟨value, h⟩

theorem eq_or_exists_of_orDefault {default : α} {part : Option Json} {a : α}
    (h : orDefault default decode part = some a) :
    a = default ∨ ∃ value, decode value = some a := by
  cases part with
  | none => exact .inl (Option.some.inj h).symm
  | some value => exact .inr ⟨value, h⟩

theorem exists_of_orNothing {part : Option Json} {a : α}
    (h : orNothing decode part = some (some a)) : ∃ value, decode value = some a := by
  rcases part with _ | value
  · cases h
  have decoded : (decode value).map some = some (some a) ∨ value = null := by
    cases value with
    | null => exact .inr rfl
    | _ => exact .inl h
  obtain decoded | rfl := decoded
  · obtain ⟨_, decoded, same⟩ := Option.map_eq_some_iff.1 decoded
    cases same
    exact ⟨value, decoded⟩
  · cases h

end Json

namespace Datacenter

/-- The shape of a datacenter. -/
def shape : Shape := .record [("name", .text), ("replicas", .count)]

theorem decode_encode {dc : Datacenter} (fits : IsCount dc.replicas) :
    decode dc.encode = some dc := by
  have parts : dc.encode.parts? ["name", "replicas"] =
      some [some (.text dc.name), some (.integer dc.replicas)] := rfl
  have count : count? (.integer dc.replicas) = some dc.replicas :=
    count?_eq_some_iff.2 ⟨rfl, fits⟩
  rw [decode, parts]
  simp only [required, text?, count]
  rfl

theorem isPlain_encode (dc : Datacenter) : dc.encode.isPlain = true := rfl

theorem respects_decode : Respects shape decode :=
  respects_record ["name", "replicas"] rfl (by decide) (fun _ refused => by rw [decode, refused])
    fun _ _ _ _ found found' alike => by
      rcases alike with _ | ⟨name, _ | ⟨replicas, _ | _⟩⟩
      rw [decode, decode, found, found', eq_of_rel_alike rfl name, eq_of_rel_alike rfl replicas]

end Datacenter

namespace ManagedRegion

/-- The shape of a managed region. -/
def shape : Shape := .record [("domain", .text), ("namespace", .text)]

theorem decode_encode (region : ManagedRegion) : decode region.encode = some region := by
  obtain ⟨domain, _ | space⟩ := region <;> rfl

theorem isPlain_encode (region : ManagedRegion) : region.encode.isPlain = true := by
  obtain ⟨domain, _ | space⟩ := region <;> rfl

theorem respects_decode : Respects shape decode :=
  respects_record ["domain", "namespace"] rfl (by decide) (fun _ refused => by rw [decode, refused])
    fun _ _ _ _ found found' alike => by
      rcases alike with _ | ⟨domain, _ | ⟨space, _ | _⟩⟩
      rw [decode, decode, found, found', eq_of_rel_alike rfl domain, eq_of_rel_alike rfl space]

end ManagedRegion

namespace HostPort

/-- The shape of an exposure. -/
def shape : Shape := .record [("enabled", .flag), ("useExternalHostIP", .flag)]

theorem decode_encode (hostPort : HostPort) : decode hostPort.encode = some hostPort := rfl

theorem respects_decode : Respects shape decode :=
  respects_record ["enabled", "useExternalHostIP"] rfl (by decide)
    (fun _ refused => by rw [decode, refused])
    fun _ _ _ _ found found' alike => by
      rcases alike with _ | ⟨enabled, _ | ⟨useExternal, _ | _⟩⟩
      rw [decode, decode, found, found', eq_of_rel_alike rfl enabled,
        eq_of_rel_alike rfl useExternal]

end HostPort

namespace Spec

/-- The shape of what is said about the nodes. -/
def nodesShape : Shape := .record [("numSeeds", .count), ("zonesAsRacks", .flag)]

/-- The shape of an ingress. -/
def ingressShape : Shape := .record [("domain", .text)]

/-- The shape of an unmanaged region. -/
def seedsShape : Shape := .record [("seeds", .list .text)]

/-- The shape of the other regions. -/
def regionsShape : Shape :=
  .record [("managed", .list ManagedRegion.shape), ("unmanaged", .list seedsShape)]

/-- The shape of a declaration. -/
def shape : Shape := .record [("dcs", .list Datacenter.shape), ("cassandra", nodesShape),
  ("hostPort", HostPort.shape), ("ingress", ingressShape), ("externalRegions", regionsShape)]

theorem respects_decodeNodes : Respects nodesShape decodeNodes :=
  respects_record ["numSeeds", "zonesAsRacks"] rfl (by decide)
    (fun _ refused => by rw [decodeNodes, refused])
    fun _ _ _ _ found found' alike => by
      rcases alike with _ | ⟨numSeeds, _ | ⟨zonesAsRacks, _ | _⟩⟩
      rw [decodeNodes, decodeNodes, found, found', eq_of_rel_alike rfl numSeeds,
        eq_of_rel_alike rfl zonesAsRacks]

theorem respects_decodeIngress : Respects ingressShape decodeIngress :=
  respects_record ["domain"] rfl (by decide) (fun _ refused => by rw [decodeIngress, refused])
    fun _ _ _ _ found found' alike => by
      rcases alike with _ | ⟨domain, _ | _⟩
      rw [decodeIngress, decodeIngress, found, found', eq_of_rel_alike rfl domain]

theorem respects_text : Respects .text text? := fun _ _ alike => by
  rw [eq_of_alike rfl alike]

theorem respects_decodeSeeds : Respects seedsShape decodeSeeds :=
  respects_record ["seeds"] rfl (by decide) (fun _ refused => by rw [decodeSeeds, refused])
    fun _ _ _ _ found found' alike => by
      rcases alike with _ | ⟨seeds, _ | _⟩
      rw [decodeSeeds, decodeSeeds, found, found']
      exact required_alike (respects_list respects_text) seeds

theorem respects_decodeRegions : Respects regionsShape decodeRegions :=
  respects_record ["managed", "unmanaged"] rfl (by decide)
    (fun _ refused => by rw [decodeRegions, refused])
    fun _ _ _ _ found found' alike => by
      rcases alike with _ | ⟨managed, _ | ⟨unmanaged, _ | _⟩⟩
      rw [decodeRegions, decodeRegions, found, found']
      simp only [orDefault_alike (respects_list ManagedRegion.respects_decode) managed,
        orDefault_alike (respects_list respects_decodeSeeds) unmanaged]

/-- What is read of a declaration is the same for values that are alike. -/
theorem respects_decode : Respects shape decode :=
  respects_record ["dcs", "cassandra", "hostPort", "ingress", "externalRegions"] rfl (by decide)
    (fun _ refused => by rw [decode, refused])
    fun _ _ _ _ found found' alike => by
      rcases alike with
        _ | ⟨dcs, _ | ⟨nodes, _ | ⟨hostPort, _ | ⟨ingress, _ | ⟨regions, _ | _⟩⟩⟩⟩⟩
      rw [decode, decode, found, found']
      simp only [required_alike (respects_list Datacenter.respects_decode) dcs,
        orDefault_alike respects_decodeNodes nodes,
        orDefault_alike HostPort.respects_decode hostPort,
        orDefault_alike respects_decodeIngress ingress,
        orDefault_alike respects_decodeRegions regions]

/-- A declaration whose counts have thirty-two bits. -/
structure Fits (spec : Spec) : Prop where
  numSeeds : IsCount spec.numSeeds
  replicas : ∀ dc ∈ spec.datacenters, IsCount dc.replicas

theorem decodeNodes_encode {numSeeds : Int} (fits : IsCount numSeeds) (zonesAsRacks : Bool) :
    decodeNodes (.object [("numSeeds", .integer numSeeds), ("zonesAsRacks", .bool zonesAsRacks)]) =
      some (numSeeds, zonesAsRacks) := by
  have parts : (object [("numSeeds", .integer numSeeds),
      ("zonesAsRacks", .bool zonesAsRacks)]).parts? ["numSeeds", "zonesAsRacks"] =
        some [some (.integer numSeeds), some (.bool zonesAsRacks)] := rfl
  have count : count? (.integer numSeeds) = some numSeeds := count?_eq_some_iff.2 ⟨rfl, fits⟩
  rw [decodeNodes, parts]
  simp only [orDefault, bool?, count]
  rfl

theorem decodeSeeds_encode (seeds : List String) :
    decodeSeeds (.object [("seeds", .array (seeds.map .text))]) = some seeds :=
  @list?_map _ text? .text seeds fun _ _ => rfl

theorem isPlain_encodeSeeds (seeds : List String) :
    (object [("seeds", .array (seeds.map .text))]).isPlain = true := by
  have texts := allPlain_map fun seed (_ : seed ∈ seeds) => (rfl : (text seed).isPlain = true)
  simp [isPlain, fieldsPlain, texts]

theorem decodeRegions_encode (managed : List ManagedRegion) (unmanaged : List (List String)) :
    decodeRegions (.object [("managed", .array (managed.map ManagedRegion.encode)),
      ("unmanaged", .array (unmanaged.map fun seeds =>
        .object [("seeds", .array (seeds.map .text))]))]) = some (managed, unmanaged) := by
  have first := list?_map fun region (_ : region ∈ managed) => region.decode_encode
  have second := list?_map fun seeds (_ : seeds ∈ unmanaged) => decodeSeeds_encode seeds
  have parts (a b : Json) : (object [("managed", a), ("unmanaged", b)]).parts?
      ["managed", "unmanaged"] = some [some a, some b] := rfl
  rw [decodeRegions, parts]
  simp only [orDefault, first, second]
  rfl

/-- A declaration is read as it was written. -/
theorem decode_encode {spec : Spec} (fits : spec.Fits) : decode spec.encode = some spec := by
  have datacenters := list?_map fun dc among =>
    Datacenter.decode_encode (fits.replicas dc among)
  have parts : spec.encode.parts? ["dcs", "cassandra", "hostPort", "ingress", "externalRegions"] =
      some [some (.array (spec.datacenters.map Datacenter.encode)),
        some (.object [("numSeeds", .integer spec.numSeeds),
          ("zonesAsRacks", .bool spec.zonesAsRacks)]),
        some spec.hostPort.encode, some (.object [("domain", .text spec.domain)]),
        some (.object [("managed", .array (spec.managed.map ManagedRegion.encode)),
          ("unmanaged", .array (spec.unmanaged.map fun seeds =>
            .object [("seeds", .array (seeds.map .text))]))])] := rfl
  have domain : decodeIngress (.object [("domain", .text spec.domain)]) = some spec.domain := rfl
  rw [decode, parts]
  simp only [required, orDefault, datacenters, decodeNodes_encode fits.numSeeds,
    HostPort.decode_encode, domain, decodeRegions_encode]
  rfl

theorem isCount_of_decodeNodes {value : Json} {nodes : Int × Bool}
    (h : decodeNodes value = some nodes) : IsCount nodes.1 := by
  rw [decodeNodes] at h
  split at h
  · obtain ⟨numSeeds, read, h⟩ := Option.bind_eq_some_iff.1 h
    obtain ⟨zonesAsRacks, -, h⟩ := Option.bind_eq_some_iff.1 h
    cases h
    obtain rfl | ⟨value, read⟩ := eq_or_exists_of_orDefault read
    · exact isCount_two
    · exact (count?_eq_some_iff.1 read).2
  · cases h

theorem isCount_of_decode {value : Json} {dc : Datacenter} (h : Datacenter.decode value = some dc) :
    IsCount dc.replicas := by
  rw [Datacenter.decode] at h
  split at h
  · obtain ⟨name, -, h⟩ := Option.bind_eq_some_iff.1 h
    obtain ⟨replicas, read, h⟩ := Option.bind_eq_some_iff.1 h
    obtain rfl := Option.some.inj h
    obtain ⟨value, read⟩ := exists_of_required read
    exact (count?_eq_some_iff.1 read).2
  · cases h

/-- The counts of a declaration that was read have thirty-two bits. -/
theorem fits_of_decode {value : Json} {spec : Spec} (h : decode value = some spec) :
    spec.Fits := by
  rw [decode] at h
  split at h
  · simp only [Option.bind_eq_bind, Option.bind_eq_some_iff, Option.pure_def,
      Option.some.injEq] at h
    obtain ⟨datacenters, first, ⟨numSeeds, zonesAsRacks⟩, second, _, -, _, -, _, -, rfl⟩ := h
    constructor
    · obtain default | ⟨value, read⟩ := eq_or_exists_of_orDefault second
      · cases default
        exact isCount_two
      · exact isCount_of_decodeNodes read
    · intro dc among
      obtain ⟨value, listed⟩ := exists_of_required first
      obtain ⟨item, read⟩ := exists_of_list? listed among
      exact isCount_of_decode read
  · cases h

theorem isPlain_encode (spec : Spec) : spec.encode.isPlain = true := by
  have datacenters := allPlain_map fun dc (_ : dc ∈ spec.datacenters) => dc.isPlain_encode
  have managed := allPlain_map fun region (_ : region ∈ spec.managed) => region.isPlain_encode
  have unmanaged := allPlain_map fun seeds (_ : seeds ∈ spec.unmanaged) =>
    isPlain_encodeSeeds seeds
  simp [encode, HostPort.encode, isPlain, fieldsPlain, datacenters, managed, unmanaged]

/-- A declaration is read as it was written, from its value and from the text of this. What is
read of any value is written as a value that gives the same declaration, and is written the same
again; and values that are alike give the same, or both give nothing. -/
theorem reads_what_it_writes :
    (∀ spec : Spec, spec.Fits →
      decode spec.encode = some spec ∧ (read spec.encode.write).bind decode = some spec) ∧
    (∀ value spec, decode value = some spec →
      decode spec.encode = some spec ∧ (decode spec.encode).map encode = some spec.encode) ∧
    ∀ value value', Alike shape value value' → decode value' = decode value := by
  refine ⟨fun spec fits => ⟨decode_encode fits, ?_⟩, fun value spec h => ?_, respects_decode⟩
  · rw [read_write spec.isPlain_encode, Option.bind_some, decode_encode fits]
  · have again := decode_encode (fits_of_decode h)
    exact ⟨again, by rw [again, Option.map_some]⟩

/-! ## Much left out -/

/-- A region of a declaration, with the fields that a value gives besides. -/
def sparseRegions (further : List (String × Json)) : Json :=
  .object [("managed", .array [.object (further ++ [("domain", .text "b.example")])])]

/-- A declaration that leaves out what it can, the second datacenter written as a list. -/
def sparse : Json := .object [
  ("dcs", .array [.object [("name", .text "a"), ("replicas", .integer 3)],
    .array [.text "b", .integer (-1)]]),
  ("externalRegions", sparseRegions [])]

/-- The same in another order, with fields that nobody knows. -/
def strewn : Json := .object [
  ("comment", .broken),
  ("externalRegions", sparseRegions [("zone", .null)]),
  ("dcs", .array [.object [("name", .text "a"), ("replicas", .integer 3)],
    .array [.text "b", .integer (-1)]])]

theorem alike_sparse : Alike shape sparse strewn := by
  have region : Alike ManagedRegion.shape (.object [("domain", .text "b.example")])
      (.object [("zone", .null), ("domain", .text "b.example")]) :=
    .extended .null (by decide)
  have regions : Alike regionsShape (sparseRegions []) (sparseRegions [("zone", .null)]) :=
    .inside List.mem_cons_self (@Alike.item _ [] [] _ _ region)
  have known : ("externalRegions", regionsShape) ∈ [("dcs", .list Datacenter.shape),
      ("cassandra", nodesShape), ("hostPort", HostPort.shape), ("ingress", ingressShape),
      ("externalRegions", regionsShape)] := List.mem_of_getElem? (rfl : _[4]? = _)
  refine .andThen (.reordered (.swap _ _ _)) ?_
  exact .andThen (.inside known regions) (.extended .broken (by decide))

/-- What is left out is given, and given again. -/
theorem reads_what_it_writes_sparse :
    let spec : Spec := { datacenters := [⟨"a", 3⟩, ⟨"b", -1⟩], managed := [⟨"b.example", none⟩] }
    decode sparse = some spec ∧ decode strewn = some spec ∧ decode spec.encode = some spec ∧
      (decode spec.encode).map encode = some spec.encode ∧
      (read spec.encode.write).bind decode = some spec := by
  intro spec
  obtain ⟨written, again, blind⟩ := reads_what_it_writes
  have given : decode sparse = some spec := rfl
  obtain ⟨same, encoded⟩ := again sparse spec given
  have fits : spec.Fits := ⟨isCount_two, by decide⟩
  exact ⟨given, (blind _ _ alike_sparse).trans given, same, encoded, (written spec fits).2⟩

end Spec

end RingOperator
