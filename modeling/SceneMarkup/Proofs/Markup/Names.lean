import SceneMarkup.Proofs.Markup.Tags

/-!
# Names that a reader finds

Whatever text it reads, a reader finds no names but those that can be read as names: tags are named
by letters and digits, attributes by keys. No step loses this (`State.IsSound.step`), so it holds of
everything that is read (`isSound_of_read`).
-/

namespace SceneMarkup.Reader

def AreKeyed (attributes : List RawAttribute) : Prop := ∀ a ∈ attributes, IsKey a.name

theorem AreKeyed.add {attributes : List RawAttribute} (h : AreKeyed attributes) {key : List Char}
    (hkey : IsKey key) (value : RawValue) : AreKeyed (attributes ++ [⟨key, value⟩]) :=
  List.forall_mem_append.mpr ⟨h, List.forall_mem_singleton.mpr hkey⟩

inductive Item.IsSound : Item → Prop where
  | text (characters : List Char) : IsSound (.text characters)
  | element {tag : Tag} {attributes : List RawAttribute} {content : List Item}
      (hkeys : AreKeyed attributes) (hcontent : ∀ item ∈ content, item.IsSound) :
      IsSound (.element tag attributes content)
  | component {name : List Char} {attributes : List RawAttribute} (hname : IsTagName name)
      (hkeys : AreKeyed attributes) : IsSound (.component name attributes)

structure Head.IsSound (head : Head) : Prop where
  name : IsTagName head.name
  keys : AreKeyed head.attributes

theorem Head.IsSound.add {head : Head} (h : head.IsSound) {key : List Char} (hkey : IsKey key)
    (value : RawValue) : (head.add key value).IsSound := ⟨h.name, h.keys.add hkey value⟩

def Place.IsSound : Place → Prop
  | content | bracket | closing _ => True
  | name letters => IsTagName letters
  | inside head | slash head => head.IsSound
  | key head letters | assigned head letters | quoted head letters _ | braced head letters _ _ =>
    head.IsSound ∧ IsKey letters

structure OpenElement.IsSound (o : OpenElement) : Prop where
  keys : AreKeyed o.attributes
  before : ∀ item ∈ o.before, item.IsSound

structure State.IsSound (s : State) : Prop where
  opened : ∀ o ∈ s.opened, o.IsSound
  items : ∀ item ∈ s.items, item.IsSound
  place : s.place.IsSound

theorem isSound_start : start.IsSound :=
  ⟨List.forall_mem_nil _, List.forall_mem_nil _, trivial⟩

theorem isSound_addChar {items : List Item} (h : ∀ item ∈ items, item.IsSound) (c : Char) :
    ∀ item ∈ addChar items c, item.IsSound := by
  unfold addChar
  split
  · exact List.forall_mem_append.mpr
      ⟨fun item hitem => h item (List.dropLast_subset _ hitem),
        List.forall_mem_singleton.mpr (.text _)⟩
  · exact List.forall_mem_append.mpr ⟨h, List.forall_mem_singleton.mpr (.text _)⟩

theorem isTagName_append {name : List Char} (h : ∀ c ∈ name, c.isAlphanum = true) {c : Char}
    (hc : c.isAlphanum = true) : IsTagName (name ++ [c]) :=
  ⟨by simp, List.forall_mem_append.mpr ⟨h, List.forall_mem_singleton.mpr hc⟩⟩

theorem isKey_append {key : List Char} (h : ∀ c ∈ key, isKeyChar c = true) {c : Char}
    (hc : isKeyChar c = true) : IsKey (key ++ [c]) :=
  ⟨by simp, List.forall_mem_append.mpr ⟨h, List.forall_mem_singleton.mpr hc⟩⟩

namespace State.IsSound

variable {s t : State} {head : Head}

theorem move (h : s.IsSound) {place : Place} (hplace : place.IsSound) :
    State.IsSound { s with place } := ⟨h.opened, h.items, hplace⟩

theorem enter (h : s.IsSound) (hhead : head.IsSound) (ht : s.enter head = some t) : t.IsSound := by
  obtain ⟨tag, -, rfl⟩ := Option.map_eq_some_iff.mp ht
  exact ⟨List.forall_mem_cons.mpr ⟨⟨hhead.keys, h.items⟩, h.opened⟩, List.forall_mem_nil _, trivial⟩

theorem leave (h : s.IsSound) {name : List Char} (ht : s.leave name = some t) : t.IsSound := by
  unfold State.leave at ht
  split at ht
  · cases ht
  · rename_i o opened hopened
    obtain ⟨ho, hrest⟩ := List.forall_mem_cons.mp (hopened ▸ h.opened)
    simp only [Option.ite_none_right_eq_some, Option.some.injEq] at ht
    obtain ⟨-, rfl⟩ := ht
    have helement : (Item.element o.tag o.attributes s.items).IsSound := .element ho.keys h.items
    exact ⟨hrest,
      List.forall_mem_append.mpr ⟨ho.before, List.forall_mem_singleton.mpr helement⟩, trivial⟩

theorem delimit (h : s.IsSound) (hhead : head.IsSound) {c : Char}
    (ht : s.delimit head c = some t) : t.IsSound := by
  unfold State.delimit at ht
  split at ht
  · cases ht; exact h.move hhead
  · split at ht
    · exact h.enter hhead ht
    · split at ht
      · cases ht; exact h.move hhead
      · cases ht

/-- What is found by a step can be read as a name if all that was found before can. -/
theorem step {flavor : Flavor} {c : Char} (h : s.IsSound) (ht : step flavor s c = some t) :
    t.IsSound := by
  obtain ⟨opened, items, place⟩ := s
  have hplace := h.place
  -- names grow by characters that may stand in them, so they are names wherever they end
  cases place with
  | content =>
    simp only [Reader.step] at ht
    split at ht
    · cases ht; exact h.move trivial
    · split at ht
      · cases ht; exact ⟨h.opened, isSound_addChar h.items c, trivial⟩
      · cases ht
  | bracket =>
    simp only [Reader.step] at ht
    split at ht
    · cases ht; exact h.move trivial
    · split at ht
      · rename_i hc
        cases ht; exact h.move (isTagName_append (List.forall_mem_nil _) hc)
      · cases ht
  | closing name =>
    simp only [Reader.step] at ht
    split at ht
    · cases ht; exact h.move trivial
    · split at ht
      · exact h.leave ht
      · cases ht
  | name name =>
    simp only [Reader.step] at ht
    split at ht
    · rename_i hc
      cases ht; exact h.move (isTagName_append hplace.2 hc)
    · have hhead : Head.IsSound ⟨name, []⟩ := ⟨hplace, List.forall_mem_nil _⟩
      exact h.delimit hhead ht
  | inside head =>
    simp only [Reader.step] at ht
    split at ht
    · rename_i hc
      cases ht; exact h.move ⟨hplace, isKey_append (List.forall_mem_nil _) hc⟩
    · exact h.delimit hplace ht
  | key head key =>
    simp only [Reader.step] at ht
    split at ht
    · rename_i hc
      cases ht; exact h.move ⟨hplace.1, isKey_append hplace.2.2 hc⟩
    · split at ht
      · cases ht; exact h.move hplace
      · cases ht
  | assigned head key =>
    simp only [Reader.step] at ht
    split at ht
    · cases ht; exact h.move hplace
    · split at ht
      · cases ht; exact h.move hplace
      · cases ht
  | quoted head key text =>
    simp only [Reader.step] at ht
    split at ht
    · cases ht; exact h.move (hplace.1.add hplace.2 _)
    · cases ht; exact h.move hplace
  | braced head key nesting text =>
    simp only [Reader.step] at ht
    split at ht
    · cases ht; exact h.move (hplace.1.add hplace.2 _)
    · cases ht; exact h.move hplace
  | slash head =>
    simp only [Reader.step] at ht
    split at ht
    · cases ht
      exact ⟨h.opened, List.forall_mem_append.mpr
        ⟨h.items, List.forall_mem_singleton.mpr (.component hplace.name hplace.keys)⟩, trivial⟩
    · cases ht

theorem run {flavor : Flavor} {text : List Char} (h : s.IsSound)
    (ht : run flavor s text = some t) : t.IsSound := by
  induction text generalizing s with
  | nil => cases ht; exact h
  | cons c rest ih =>
    rw [run_cons] at ht
    obtain ⟨next, hnext, hrest⟩ := Option.bind_eq_some_iff.mp ht
    exact ih (h.step hnext) hrest

end State.IsSound

theorem isSound_of_read {flavor : Flavor} {text : String} {items : List Item}
    (h : read flavor text = some items) : ∀ item ∈ items, item.IsSound := by
  obtain ⟨s, hrun, hresult⟩ := Option.bind_eq_some_iff.mp h
  have hs := isSound_start.run hrun
  unfold State.result? at hresult
  split at hresult
  · cases hresult; exact hs.items
  · cases hresult

end SceneMarkup.Reader
