import SceneMarkup.Proofs.Json.ReadBack
import SceneMarkup.Proofs.Registry.Defaults
import SceneMarkup.Proofs.Registry.Runs

/-!
# Loading what was written

A descriptor is decoded from the value that it is written as, but for defaults that are null
(`Descriptor.ofValue_toValue`). The components of a loaded registry have no such defaults, so that a
document of them is loaded as the same registry, whatever order they are written in, if the floats in
their defaults are read back from their texts, and only then (`documentText_roundTrip`).
-/

namespace SceneMarkup

open Json (Value Outline Budget Position ReadsBack ScannedAs)
open Json.Outline (Shows)

/-! ## Written values fit -/

section

variable {b inner : Budget}

theorem PropSchema.fits_toValue (henter : ∀ p, b.enter p = .ok inner) {p : PropSchema}
    (hp : ∀ v ∈ p.default, v.Fits inner) : p.toValue.Fits b := by
  obtain ⟨name, type, default⟩ := p
  cases default with
  | none =>
    have hkeys : ["name", "type"].Nodup := by decide
    refine .object henter hkeys (List.forall_mem_cons.mpr ⟨.string _, ?_⟩)
    exact List.forall_mem_singleton.mpr (.string _)
  | some v =>
    have hkeys : ["name", "type", "default"].Nodup := by decide
    refine .object henter hkeys (List.forall_mem_cons.mpr ⟨.string _, ?_⟩)
    exact List.forall_mem_cons.mpr ⟨.string _, List.forall_mem_singleton.mpr (hp v rfl)⟩

theorem Descriptor.fits_toValue {b₁ b₂ b₃ : Budget} (h₁ : ∀ p, b.enter p = .ok b₁)
    (h₂ : ∀ p, b₁.enter p = .ok b₂) (h₃ : ∀ p, b₂.enter p = .ok b₃) {d : Descriptor}
    (hd : d.DefaultsFit b₃) : d.toValue.Fits b := by
  have hkeys : ["name", "props"].Nodup := by decide
  have hprops : (Value.array (d.props.map PropSchema.toValue)).Fits b₁ :=
    .array h₂ (List.forall_mem_map.mpr fun p hp => PropSchema.fits_toValue h₃ (hd p hp))
  refine .object h₁ hkeys (List.forall_mem_cons.mpr ⟨.string _, ?_⟩)
  exact List.forall_mem_singleton.mpr hprops

theorem fits_documentValue {ds : List Descriptor} (hds : ∀ d ∈ ds, d.DefaultsFit defaultBudget) :
    (documentValue ds).Fits registryBudget := by
  have hkeys : ["components"].Nodup := by decide
  have hcomponents : (Value.array (ds.map Descriptor.toValue)).Fits (some 126) :=
    .array (fun _ => rfl) (List.forall_mem_map.mpr fun d hd =>
      Descriptor.fits_toValue (fun _ => rfl) (fun _ => rfl) (fun _ => rfl) (hds d hd))
  exact .object (fun _ => rfl) hkeys (List.forall_mem_singleton.mpr hcomponents)

end

/-! ## Values -/

def Descriptor.ofValue (v : Value) : Except Json.Error Descriptor := Descriptor.read none v.outline

/-- A descriptor comes back from its value, except that a default that is null comes back as none. -/
theorem Descriptor.ofValue_toValue {d : Descriptor} (hd : d.DefaultsFit none) :
    Descriptor.ofValue d.toValue = .ok d.asRead := by
  have henter (p : Position) : Budget.enter none p = .ok none := rfl
  have hread := Descriptor.read_eq_ok_iff (Q := fun _ => True) (fun w r _ h => iff_of_true h trivial)
    henter henter henter hd d.toValue.shows_outline
  exact hread.mpr fun p _ v _ w _ _ => trivial

/-! ## Texts -/

namespace Registry

def documentText (ds : List Descriptor) : String := (documentValue ds).compact

def FloatsReadBack (ds : List Descriptor) : Prop :=
  ∀ d ∈ ds, ∀ p ∈ d.props, ∀ v ∈ p.default, v.Floats fun x => ReadsBack (.float x)

variable {text : String} {r r' : Registry} {ds ds' : List Descriptor}

theorem exists_ofText_documentText (hds : ∀ d ∈ ds, d.DefaultsFit defaultBudget) :
    ∃ o, Json.Document.ofText (documentText ds) = ⟨o, none⟩ ∧ o.Shows ScannedAs (documentValue ds) :=
  Json.exists_ofText_of_scansTo (Json.scansTo_compact (fits_documentValue hds))

theorem ofValue_toValue_of_ofText (h : ofText text = .ok r) {d : Descriptor}
    (hd : d ∈ r.components) : Descriptor.ofValue d.toValue = .ok d := by
  have hread := defaultsRead_of_ofText h d hd
  have hfit : d.DefaultsFit none := fun p hp v hv => (hread.fit p hp v hv).unbounded
  rw [Descriptor.ofValue_toValue hfit, hread.asRead]

theorem eq_of_perm_of_names (hperm : ds'.Perm ds) (hdistinct : (ds.map (·.name)).Nodup)
    (hnames : ds'.map (·.name) = ds.map (·.name)) : ds' = ds := by
  refine List.ext_getElem hperm.length_eq fun i h' h => ?_
  have hname := List.getElem_of_eq hnames ((List.length_map _).symm ▸ h')
  rw [List.getElem_map, List.getElem_map] at hname
  exact List.inj_on_of_nodup_map hdistinct (hperm.mem_iff.mp (List.getElem_mem h'))
    (List.getElem_mem h) hname

theorem get?_eq_of_perm (h : r'.components.Perm r.components) (name : String) :
    r'.get? name = r.get? name := by
  refine Option.ext fun d => ?_
  rw [get?_eq_some_iff, get?_eq_some_iff, h.mem_iff]

theorem loadable_of_perm (h : ds.Perm ds') (hload : Loadable ds') : Loadable ds :=
  ⟨fun d hd => hload.1 d (h.mem_iff.mp hd), (h.map _).nodup_iff.mpr hload.2⟩

/-- Components that are read from their own document are the same just if their floats are. -/
theorem readComponents_documentText_iff (hds : ∀ d ∈ ds, d.DefaultsRead defaultBudget) {o : Outline}
    (ho : o.Shows ScannedAs (documentValue ds)) :
    readComponents o = .ok ds ↔ FloatsReadBack ds := by
  have hasRead : ds.map (·.asRead) = ds := by
    rw [List.map_congr_left fun d hd => (hds d hd).asRead, List.map_id']
  have hread := readComponents_eq_ok_iff (fun w r hnumber hr => Json.scannedAs_iff hnumber hr)
    (fun d hd => (hds d hd).fit) ho
  rw [hasRead] at hread
  rw [hread]
  refine forall₂_congr fun d hd => forall₂_congr fun p hp => forall₂_congr fun v hv => ?_
  exact ((hds d hd).fit p hp v hv).numbers_readsBack_iff

/-- **The components of a loaded registry, written in any order, are loaded as the same registry just
if the floats in their defaults are read back.** -/
theorem ofText_documentText_iff (h : ofText text = .ok r) (hperm : ds.Perm r.components) :
    (∃ r', ofText (documentText ds) = .ok r' ∧ ∀ name, r'.get? name = r.get? name) ↔
      FloatsReadBack r.components := by
  have hread : ∀ d ∈ ds, d.DefaultsRead defaultBudget := fun d hd =>
    defaultsRead_of_ofText h d (hperm.mem_iff.mp hd)
  obtain ⟨o, hdocument, ho⟩ := exists_ofText_documentText fun d hd => (hread d hd).fit
  have hiff := readComponents_documentText_iff hread ho
  have hfloats : FloatsReadBack ds ↔ FloatsReadBack r.components :=
    forall_congr' fun d => imp_congr_left hperm.mem_iff
  rw [← hfloats, ← hiff, ofText, hdocument, Json.Document.read_of_none]
  constructor
  · rintro ⟨r', hload, hget⟩
    cases hcomponents : readComponents o with
    | error e => rw [hcomponents] at hload; cases hload
    | ok ds' =>
      rw [hcomponents] at hload
      have hsame := (perm_of_get? hget).trans hperm.symm
      rw [components_of_ofDescriptors hload] at hsame
      have hdistinct : (ds.map (·.name)).Nodup := (hperm.map _).nodup_iff.mpr r.distinct
      rw [eq_of_perm_of_names hsame hdistinct (names_of_readComponents ho hcomponents)]
  · intro hcomponents
    have hloadable := exists_ofDescriptors_iff.mp ⟨r, (read_components_of_ofText h).2⟩
    obtain ⟨r', hr'⟩ := exists_ofDescriptors_iff.mpr (loadable_of_perm hperm hloadable)
    rw [hcomponents]
    refine ⟨r', hr', get?_eq_of_perm ?_⟩
    rw [components_of_ofDescriptors hr']
    exact hperm

/-! ## Two components -/

/-- Two components, with an array and a float for the defaults of their props. -/
def pairWith (x : Float) : List Descriptor :=
  [⟨"A", [⟨"x", .any, some (.array [.integer 7])⟩]⟩, ⟨"B", [⟨"y", .number, some (.float x)⟩]⟩]

def pairText (number : String) : String :=
  "\x7b\"components\":[" ++
    "\x7b\"name\":\"A\",\"props\":[\x7b\"name\":\"x\",\"type\":\"ANY\",\"default\":[7]\x7d]\x7d," ++
    "\x7b\"name\":\"B\",\"props\":[\x7b\"name\":\"y\",\"type\":\"NUMBER\",\"default\":" ++
    number ++ "\x7d]\x7d]\x7d"

theorem exists_ofText_pairText (number : String) (b : Binary)
    (h : (match (Json.Document.ofText (pairText number)).read readComponents with
      | .ok [⟨"A", [⟨"x", .any, some (.array [.integer 7])⟩]⟩,
          ⟨"B", [⟨"y", .number, some (.float x)⟩]⟩] => decide (Binary.ofFloat? x = some b)
      | _ => false) = true) :
    ∃ x r, Binary.ofFloat? x = some b ∧ ofText (pairText number) = .ok r ∧
      r.components = pairWith x := by
  split at h
  · rename_i x hread
    have hnames : Loadable (pairWith x) := by
      refine ⟨?_, (by decide : ["A", "B"].Nodup)⟩
      exact List.forall_mem_cons.mpr ⟨(by decide : IsName "A"),
        List.forall_mem_singleton.mpr (by decide : IsName "B")⟩
    obtain ⟨r, hr⟩ := exists_ofDescriptors_iff.mpr hnames
    refine ⟨x, r, of_decide_eq_true h, ?_, components_of_ofDescriptors hr⟩
    rw [ofText, hread]
    exact hr
  · cases h

theorem floatsReadBack_pairWith {x : Float} (hx : ReadsBack (.float x)) :
    FloatsReadBack (pairWith x) := by
  refine List.forall_mem_cons.mpr ⟨List.forall_mem_singleton.mpr ?_,
    List.forall_mem_singleton.mpr (List.forall_mem_singleton.mpr ?_)⟩
  · rintro v ⟨⟩ y hy
    rcases Value.within_array_iff.mp hy with ⟨⟨⟩⟩ | ⟨v, hv, hwithin⟩
    cases List.mem_singleton.mp hv
    cases hwithin
  · rintro v ⟨⟩ y ⟨⟩
    exact hx

/-! ## Round trips -/

/-- **Components survive a write and a read.** A descriptor is decoded from its value, except that a
default that is null comes back as none; in a loaded registry there are no such defaults. Its
components, written in any order, are loaded as the same registry if and only if the floats in their
defaults are read back. -/
theorem documentText_roundTrip :
    (∀ d : Descriptor, d.DefaultsFit none → Descriptor.ofValue d.toValue = .ok d.asRead) ∧
    (∀ (text : String) (r : Registry), ofText text = .ok r →
      ∀ d ∈ r.components, Descriptor.ofValue d.toValue = .ok d) ∧
    ∀ (text : String) (r : Registry) (ds : List Descriptor),
      ofText text = .ok r → ds.Perm r.components →
        ((∃ r', ofText (documentText ds) = .ok r' ∧ ∀ name, r'.get? name = r.get? name) ↔
          FloatsReadBack r.components) :=
  ⟨fun _ hd => Descriptor.ofValue_toValue hd, fun _ _ h _ hd => ofValue_toValue_of_ofText h hd,
    fun _ _ _ h hperm => ofText_documentText_iff h hperm⟩

/-- A null default comes back as none, and two components are loaded again when they are written in
the other order. -/
theorem documentText_roundTrip_pair :
    Descriptor.ofValue (Descriptor.toValue ⟨"A", [⟨"x", .any, some .null⟩]⟩) =
        .ok ⟨"A", [⟨"x", .any, none⟩]⟩ ∧
      ∃ r, ofText (pairText "0.5") = .ok r ∧ r.size = 2 ∧
        (∀ d ∈ r.components, Descriptor.ofValue d.toValue = .ok d) ∧
        ∃ r', ofText (documentText r.components.reverse) = .ok r' ∧
          ∀ name, r'.get? name = r.get? name := by
  have hnull : Descriptor.DefaultsFit none ⟨"A", [⟨"x", .any, some .null⟩]⟩ := by
    refine List.forall_mem_singleton.mpr ?_
    rintro v ⟨⟩
    exact .null
  obtain ⟨x, r, hx, hr, hcomponents⟩ :=
    exists_ofText_pairText "0.5" ⟨false, 2 ^ 52, -53⟩ (by decide +kernel)
  have hfloats : FloatsReadBack r.components := by
    rw [hcomponents]
    exact floatsReadBack_pairWith (Json.readsBack_half hx)
  obtain ⟨hvalues, hloaded, htexts⟩ := documentText_roundTrip
  refine ⟨hvalues _ hnull, r, hr, by rw [size, hcomponents]; rfl, hloaded _ r hr, ?_⟩
  exact (htexts _ r _ hr (List.reverse_perm _)).mpr hfloats

/-- A default of `1.0e25` is loaded as the float below, which is written as `9.999999999999999e+24`;
what is loaded from that is `1e25`. -/
theorem documentText_rounds :
    ∃ r r', ofText (pairText "1.0e25") = .ok r ∧ ofText (documentText r.components) = .ok r' ∧
      r'.get? "B" ≠ r.get? "B" := by
  obtain ⟨x, r, hx, hr, hcomponents⟩ :=
    exists_ofText_pairText "1.0e25" ⟨false, 4656612873077392, 31⟩ (by decide +kernel)
  obtain ⟨y, r', hy, hr', hcomponents'⟩ :=
    exists_ofText_pairText "9.999999999999999e+24" ⟨false, 4656612873077393, 31⟩ (by decide +kernel)
  have htext : documentText (pairWith x) = pairText "9.999999999999999e+24" := by
    simp only [documentText, documentValue, pairWith, List.map_cons, List.map_nil,
      Descriptor.toValue, PropSchema.toValue, Option.map_some, Option.toList_some, List.cons_append,
      List.nil_append, Value.compact, Value.compactItems, Value.compactMembers, Json.text_below hx]
    decide +kernel
  refine ⟨r, r', hr, by rw [hcomponents, htext]; exact hr', ?_⟩
  rw [get?, get?, hcomponents, hcomponents']
  rintro ⟨⟩
  rw [hx] at hy
  cases hy

end Registry

end SceneMarkup
