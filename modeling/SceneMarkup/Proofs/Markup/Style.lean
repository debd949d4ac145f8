import SceneMarkup.Proofs.Markup.Reading

/-!
# Reading styles

The two forms of a style, read without regard to how they are written: `readCss` splits the value of
a style attribute into declarations `name:value` and turns the dashes of the names into capitals;
`StyleObject.read` takes one character of an object literal at a time, names before colons and values
in double quotes. Both find the same entries in what is written for the same declarations
(`readCss_css`, `StyleObject.read_entries`), if no value holds a character that delimits one.
-/

namespace SceneMarkup

structure StyleEntry where
  name : String
  value : String
  deriving DecidableEq, Repr

def Declaration.shown (d : Declaration) : StyleEntry := ⟨d.property.camel, d.value⟩

/-- The value delimits nothing where it stands, and no reader takes it for another one. -/
def Declaration.IsBare (d : Declaration) : Prop :=
  ∀ c ∈ ['"', '\\', ';', ':', '&'], c ∉ d.value.toList

namespace Reader

/-! ## Style attributes -/

def camelize : List Char → List Char
  | [] => []
  | ['-'] => ['-']
  | '-' :: c :: rest => c.toUpper :: camelize rest
  | c :: rest => c :: camelize rest

def entryOfCss? (text : List Char) : Option StyleEntry :=
  match text.splitOnP (· == ':') with
  | [name, value] => some ⟨String.ofList (camelize name), String.ofList value⟩
  | _ => none

def readCss (text : List Char) : Option (List StyleEntry) :=
  ((text.splitOnP (· == ';')).filter (!·.isEmpty)).mapM entryOfCss?

theorem splitOnP_of_not_mem {separator : Char} {text : List Char} (h : separator ∉ text) :
    text.splitOnP (· == separator) = [text] := by
  apply List.splitOnP_eq_singleton
  intro c hc
  simp only [beq_eq_false_iff_ne]
  rintro rfl
  exact h hc

theorem readCss_cons {text : List Char} (hne : text ≠ []) (h : ';' ∉ text) (rest : List Char) :
    readCss (text ++ ';' :: rest) =
      (entryOfCss? text).bind fun entry => (readCss rest).map (entry :: ·) := by
  have hempty : text.isEmpty = false := by simpa using hne
  rw [readCss, List.splitOnP_append_cons _ _ (by decide), splitOnP_of_not_mem h,
    List.singleton_append, List.filter_cons_of_pos (by simp [hempty]), List.mapM_cons]
  cases entryOfCss? text with
  | none => rfl
  | some entry => cases h : readCss rest <;> simp_all [readCss]

theorem camelize_kebab (property : StyleProperty) :
    String.ofList (camelize property.kebab.toList) = property.camel := by
  cases property <;> decide

theorem entryOfCss?_css {d : Declaration} (h : d.IsBare) :
    entryOfCss? (d.property.kebab.toList ++ ':' :: d.value.toList) = some d.shown := by
  have hname : ':' ∉ d.property.kebab.toList := by cases d.property <;> decide
  have hvalue : ':' ∉ d.value.toList := h ':' (by decide)
  rw [entryOfCss?, List.splitOnP_append_cons _ _ (by decide), splitOnP_of_not_mem hname,
    splitOnP_of_not_mem hvalue]
  simp [camelize_kebab, Declaration.shown]

theorem readCss_css {declarations : List Declaration} (h : ∀ d ∈ declarations, d.IsBare) :
    readCss ("".intercalate (declarations.map Declaration.css)).toList =
      some (declarations.map Declaration.shown) := by
  rw [intercalate_empty]
  induction declarations with
  | nil => rfl
  | cons d rest ih =>
    obtain ⟨hd, hrest⟩ := List.forall_mem_cons.mp h
    have hname : ';' ∉ d.property.kebab.toList := by cases d.property <;> decide
    have hvalue : ';' ∉ d.value.toList := hd ';' (by decide)
    have htext : (String.join ((d :: rest).map Declaration.css)).toList =
        (d.property.kebab.toList ++ ':' :: d.value.toList) ++
          ';' :: (String.join (rest.map Declaration.css)).toList := by
      simp [Declaration.css]
    rw [htext, readCss_cons (by simp) (by simp [hname, hvalue]), entryOfCss?_css hd, ih hrest]
    rfl

/-! ## Style objects -/

namespace StyleObject

/-- Where a reader stands in an object literal. -/
inductive Place where
  /-- before the brace that begins it -/
  | start
  /-- where a name may begin -/
  | between
  | name (name : List Char)
  | assigned (name : List Char)
  | value (name value : List Char)
  | after
  /-- after the brace that ends it -/
  | done
  deriving DecidableEq, Repr

structure State where
  entries : List StyleEntry
  place : Place
  deriving DecidableEq, Repr

/-- Takes a character. Escapes in values are not read. -/
def step (s : State) (c : Char) : Option State :=
  match s.place with
  | .start =>
    if c = '\x7b' then some { s with place := .between } else if c = ' ' then some s else none
  | .between =>
    if c = '\x7d' then some { s with place := .done }
    else if c.isAlphanum then some { s with place := .name [c] }
    else if c = ' ' then some s else none
  | .name name =>
    if c.isAlphanum then some { s with place := .name (name ++ [c]) }
    else if c = ':' then some { s with place := .assigned name } else none
  | .assigned name =>
    if c = '"' then some { s with place := .value name [] } else if c = ' ' then some s else none
  | .value name value =>
    if c = '"' then some ⟨s.entries ++ [⟨String.ofList name, String.ofList value⟩], .after⟩
    else if c = '\\' then none
    else some { s with place := .value name (value ++ [c]) }
  | .after =>
    if c = ',' then some { s with place := .between }
    else if c = '\x7d' then some { s with place := .done }
    else if c = ' ' then some s else none
  | .done => if c = ' ' then some s else none

def run (s : State) (text : List Char) : Option State := text.foldlM step s

def read (text : List Char) : Option (List StyleEntry) :=
  match run ⟨[], .start⟩ text with
  | some ⟨entries, .done⟩ => some entries
  | _ => none

variable {entries : List StyleEntry}

theorem run_cons_of {s t : State} {c : Char} (h : step s c = some t) (text : List Char) :
    run s (c :: text) = run t text := by
  unfold run
  rw [List.foldlM_cons, h]
  rfl

theorem run_append_of {s t : State} {a : List Char} (h : run s a = some t) (b : List Char) :
    run s (a ++ b) = run t b := foldlM_append_of h b

theorem run_value {text : List Char} (hquote : '"' ∉ text) (hescape : '\\' ∉ text)
    (name : List Char) :
    run ⟨entries, .value name []⟩ text = some ⟨entries, .value name text⟩ := by
  refine foldlM_gather (fun value => (⟨entries, .value name value⟩ : State))
    (fun c => c ≠ '"' ∧ c ≠ '\\') ?_ ?_ []
  · intro value c hc
    simp [step, hc]
  · intro c hc
    constructor
    · rintro rfl
      exact hquote hc
    · rintro rfl
      exact hescape hc

theorem encode_of_isBare {d : Declaration} (h : d.IsBare) :
    EntityTable.quotedValue.encode d.value.toList = d.value.toList := by
  apply EntityTable.encode_of_not_mem
  intro p hp
  simp only [EntityTable.quotedValue, List.mem_cons, List.not_mem_nil, or_false] at hp
  rcases hp with rfl | rfl
  · exact h '&' (by decide)
  · exact h '"' (by decide)

theorem run_entry {d : Declaration} (h : d.IsBare) :
    run ⟨entries, .between⟩ d.entry.toList = some ⟨entries ++ [d.shown], .after⟩ := by
  have htext : d.entry.toList =
      d.property.camel.toList ++ ':' :: ' ' :: '"' :: (d.value.toList ++ ['"']) := by
    simp [Declaration.entry, EntityTable.escape, encode_of_isBare h]
  have hname : run ⟨entries, .between⟩ d.property.camel.toList =
      some ⟨entries, .name d.property.camel.toList⟩ := by
    cases d.property <;> rfl
  have hvalue : run ⟨entries, .value d.property.camel.toList []⟩ d.value.toList =
      some ⟨entries, .value d.property.camel.toList d.value.toList⟩ :=
    run_value (h '"' (by decide)) (h '\\' (by decide)) _
  rw [htext, run_append_of hname, run_cons_of (t := ⟨entries, .assigned _⟩) rfl,
    run_cons_of (t := ⟨entries, .assigned _⟩) rfl, run_cons_of (t := ⟨entries, .value _ []⟩) rfl,
    run_append_of hvalue]
  simp [run, step, Declaration.shown]

theorem run_entries {d : Declaration} {rest : List Declaration} (h : ∀ e ∈ d :: rest, e.IsBare) :
    run ⟨entries, .between⟩ (", ".intercalate ((d :: rest).map Declaration.entry)).toList =
      some ⟨entries ++ (d :: rest).map Declaration.shown, .after⟩ := by
  induction rest generalizing d entries with
  | nil => simpa using run_entry (h d (.head _))
  | cons e rest ih =>
    obtain ⟨hd, hrest⟩ := List.forall_mem_cons.mp h
    have htext : (", ".intercalate ((d :: e :: rest).map Declaration.entry)).toList =
        d.entry.toList ++
          ',' :: ' ' :: (", ".intercalate ((e :: rest).map Declaration.entry)).toList := by
      simp [String.intercalate_cons_cons]
    rw [htext, run_append_of (run_entry hd), run_cons_of (t := ⟨_, .between⟩) rfl,
      run_cons_of (t := ⟨_, .between⟩) rfl, ih hrest]
    simp

theorem read_entries {declarations : List Declaration} (h : ∀ d ∈ declarations, d.IsBare) :
    read ("\x7b " ++ ", ".intercalate (declarations.map Declaration.entry) ++ " \x7d").toList =
      some (declarations.map Declaration.shown) := by
  have hstart : run ⟨[], .start⟩ "\x7b ".toList = some ⟨[], .between⟩ := rfl
  simp only [read, String.toList_append, List.append_assoc]
  rw [run_append_of hstart]
  cases declarations with
  | nil => rfl
  | cons d rest =>
    rw [run_append_of (run_entries h)]
    rfl

end StyleObject

end Reader

end SceneMarkup
