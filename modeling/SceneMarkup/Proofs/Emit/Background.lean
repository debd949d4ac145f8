import SceneMarkup.Proofs.Emit.Emission
import SceneMarkup.Proofs.Json.Members
import SceneMarkup.Proofs.Scene.DepthCut
import SceneMarkup.Proofs.Scene.Fills

/-!
# The background of a frame

Whatever is put in the place of the fills of an object, it is decoded as the same node, but for the
fills of its frame (`decode_putFills`). Of these, the first visible solid one alone is emitted, so
lists with the same first one are emitted alike (`emit_putFills`).
-/

namespace SceneMarkup

open Json (Value Shape putMember)

def Node.withFills (fills : List Fill) (node : Node) : Node := node.mapFrame ({ · with fills })

/-! ## Decoding -/

section Decoding

variable (value : Value) (members : List (String × Value))

theorem nodeVisible?_putFills :
    nodeVisible? (.object (putMember "fills" value members)) = nodeVisible? (.object members) := by
  simp only [nodeVisible?, Value.member?_putMember (show "visible" ≠ "fills" by decide)]

theorem kindToken?_putFills :
    kindToken? (.object (putMember "fills" value members)) = kindToken? (.object members) := by
  simp only [kindToken?, Value.member?_putMember (show "type" ≠ "fills" by decide)]

theorem nodeName_putFills :
    nodeName (.object (putMember "fills" value members)) = nodeName (.object members) := by
  simp only [nodeName, Value.member?_putMember (show "name" ≠ "fills" by decide)]

theorem childValues?_putFills :
    childValues? (.object (putMember "fills" value members)) = childValues? (.object members) := by
  simp only [childValues?, Value.member?_putMember (show "children" ≠ "fills" by decide)]

/-- No kind of node has fills among the fields that can be bad. -/
theorem fault?_putFills (kind : NodeKind) :
    kind.fault? (.object (putMember "fills" value members)) = kind.fault? (.object members) := by
  have hframe : Frame.shape.mismatch? (.object (putMember "fills" value members)) =
      Frame.shape.mismatch? (.object members) := Shape.mismatch?_putMember (by decide) ..
  have htext : TextRun.shape.mismatch? (.object (putMember "fills" value members)) =
      TextRun.shape.mismatch? (.object members) := Shape.mismatch?_putMember (by decide) ..
  have hbag : Property.bagShape.mismatch? (.object (putMember "fills" value members)) =
      Property.bagShape.mismatch? (.object members) := Shape.mismatch?_putMember (by decide) ..
  cases kind <;>
    simp only [NodeKind.fault?, shapeFault?, childrenFault?, hframe, htext, hbag,
      childValues?_putFills]

theorem frame_putFills (visible : Bool) :
    Frame.ofValue visible (.object (putMember "fills" value members)) =
      { Frame.ofValue visible (.object members) with fills := Fill.listOf (some value) } := by
  have hfills : (Value.object (putMember "fills" value members)).member? "fills" = some value := by
    rw [Value.member?, Json.lookup_putMember, if_pos rfl]
  simp only [Frame.ofValue, textField, numberField, Shape.field?_putMember, hfills, ne_eq,
    String.reduceEq, not_false_eq_true]

theorem text_putFills (visible : Bool) :
    TextRun.ofValue visible (.object (putMember "fills" value members)) =
      TextRun.ofValue visible (.object members) := by
  simp only [TextRun.ofValue, textField, numberField, Shape.field?_putMember, ne_eq,
    String.reduceEq, not_false_eq_true]

theorem bagOf_putFills :
    Property.bagOf (.object (putMember "fills" value members)) =
      Property.bagOf (.object members) := by
  simp only [Property.bagOf,
    Value.member?_putMember (show "componentProperties" ≠ "fills" by decide)]

theorem build_putFills (children : List Node) :
    Node.build (.object (putMember "fills" value members)) children =
      (Node.build (.object members) children).withFills (Fill.listOf (some value)) := by
  simp only [Node.build, nodeVisible?_putFills, kindToken?_putFills, nodeName_putFills]
  cases nodeVisible? (.object members) with
  | none => rfl
  | some visible =>
    cases kindToken? (.object members) with
    | none => rfl
    | some token =>
      simp only
      cases NodeKind.ofToken? token with
      | none => rfl
      | some kind =>
        simp only [fault?_putFills]
        cases kind.fault? (.object members) with
        | some fault => rfl
        | none =>
          cases kind with
          | frame => simp only [frame_putFills]; rfl
          | text => simp only [text_putFills]; rfl
          | component => simp only [frame_putFills, bagOf_putFills]; rfl

theorem tooDeep?_withFills (v : Value) (fills : List Fill) :
    (tooDeep? v).map (Node.withFills fills) = tooDeep? v := by
  unfold tooDeep?
  cases nodeVisible? v with
  | none => rfl
  | some visible => cases kindToken? v <;> rfl

/-- **An object with other fills is decoded as the same node** with the fills that can be read. -/
theorem decode_putFills (levels : Nat) :
    Node.decode levels (.object (putMember "fills" value members)) =
      (Node.decode levels (.object members)).withFills (Fill.listOf (some value)) := by
  cases levels with
  | zero =>
    have htooDeep : tooDeep? (.object (putMember "fills" value members)) =
        tooDeep? (.object members) := by
      simp only [tooDeep?, nodeVisible?_putFills, kindToken?_putFills, nodeName_putFills]
    have hwithFills := tooDeep?_withFills (.object members) (Fill.listOf (some value))
    rw [Node.decode_zero _ [], Node.decode_zero _ [], htooDeep, build_putFills]
    cases hnode : tooDeep? (.object members) with
    | none => rfl
    | some node =>
      rw [hnode] at hwithFills
      exact (Option.some.inj hwithFills).symm
  | succ levels =>
    rw [Node.decode_succ, Node.decode_succ, build_putFills, childItems, childItems,
      childValues?_putFills]

end Decoding

/-! ## Emitting -/

section Emitting

variable {fills fills' : List Fill}

theorem isVisible_withFills (fills : List Fill) (node : Node) :
    (node.withFills fills).isVisible = node.isVisible := by
  cases node <;> rfl

theorem name_withFills (fills : List Fill) (node : Node) :
    (node.withFills fills).name = node.name := by
  cases node <;> rfl

theorem Theme.frame_fills (h : fills.findSome? Fill.solidColor? = fills'.findSome? Fill.solidColor?)
    (theme : Theme) (parent : Option Axis) (f : Frame) :
    theme.frame parent { f with fills } = theme.frame parent { f with fills := fills' } := by
  simp only [Theme.frame, Frame.background?, h]

namespace Emitter

theorem markup?_withFills
    (h : fills.findSome? Fill.solidColor? = fills'.findSome? Fill.solidColor?) (e : Emitter)
    (parent : Option Axis) (levels : Nat) (node : Node) :
    e.markup? parent levels (node.withFills fills) =
      e.markup? parent levels (node.withFills fills') := by
  have hvisible : (node.withFills fills).isVisible = (node.withFills fills').isVisible := by
    rw [isVisible_withFills, isVisible_withFills]
  cases levels with
  | zero => exact markup?_zero_congr (by rw [name_withFills, name_withFills]) hvisible
  | succ levels =>
    have hcontainer (f : Frame) (content : List Markup) :
        e.container parent { f with fills } content =
          e.container parent { f with fills := fills' } content := by
      rw [container, container, Theme.frame_fills h]
    refine markup?_congr_visible hvisible fun hshown hshown' => ?_
    cases node with
    | frame f children =>
      rw [Node.withFills, Node.withFills, Node.mapFrame, Node.mapFrame, markup?_frame hshown,
        markup?_frame hshown', hcontainer]
    | component f children properties =>
      rw [Node.withFills, Node.withFills, Node.mapFrame, Node.mapFrame, markup?_component hshown,
        markup?_component hshown', hcontainer]
      rfl
    | text | unknown => rfl

/-- **The first visible solid fill decides on the background, and no fill can hurt a frame.** Put in
the place of the fills of an object, a value changes nothing of the node but the fills, which are
those that its entries are read as, one by one; and values with the same first visible solid fill
are emitted alike. -/
theorem emit_putFills (members : List (String × Value)) :
    (∀ levels value, Node.decode levels (.object (putMember "fills" value members)) =
      (Node.decode levels (.object members)).withFills (Fill.listOf (some value))) ∧
    (∀ before after, Fill.listOf (some (.array (before ++ after))) =
      Fill.listOf (some (.array before)) ++ Fill.listOf (some (.array after))) ∧
    (∀ v f, Fill.Reads v f → Fill.listOf (some (.array [v])) = [f]) ∧
    (∀ v, (∀ f, ¬ Fill.Reads v f) → Fill.listOf (some (.array [v])) = []) ∧
    (∀ v, ¬ v.IsArray → Fill.listOf (some v) = []) ∧
    (∀ value color, Fill.FirstSolid value color ↔
      ∀ f : Frame, ({ f with fills := Fill.listOf (some value) } : Frame).background? = color) ∧
    ∀ value value' color, Fill.FirstSolid value color → Fill.FirstSolid value' color →
      ∀ (e : Emitter) (parent : Option Node) (levels : Nat),
        e.emit (Node.decode levels (.object (putMember "fills" value members))) parent =
          e.emit (Node.decode levels (.object (putMember "fills" value' members))) parent := by
  refine ⟨fun levels value => decode_putFills value members levels, Fill.listOf_append,
    fun v f => Fill.listOf_of_reads, fun v => Fill.listOf_of_not_reads,
    fun v => Fill.listOf_of_not_isArray, fun value color => ?_, ?_⟩
  · rw [Fill.firstSolid_iff]
    exact ⟨fun h f => h, fun h => h (.named "")⟩
  · intro value value' color h h' e parent levels
    have hsame := ((Fill.firstSolid_iff ..).mp h).trans ((Fill.firstSolid_iff ..).mp h').symm
    rw [decode_putFills, decode_putFills, emit, emit, markup?_withFills hsame]

/-- Something that is no fill, a hidden fill and an image in front of the red that decides, and the
same red as a list with black behind it. -/
theorem emit_putFills_card :
    (ofRegistry .empty).emit (Node.decode 1 (.object (putMember "fills"
        (.array
          [.string "mixed",
            .object [("type", .string "SOLID"), ("visible", .bool false),
              ("color", .object [("r", .integer 0), ("g", .integer 0), ("b", .integer 0)])],
            .object [("type", .string "IMAGE")],
            .object [("color", .object [("r", .integer 1), ("g", .integer 0), ("b", .integer 0)]),
              ("type", .string "SOLID")]])
        [("type", .string "FRAME"), ("name", .string "Card")]))) none =
      (ofRegistry .empty).emit (Node.decode 1 (.object (putMember "fills"
        (.array
          [.array [.string "SOLID", .null, .array [.integer 1, .integer 0, .integer 0]],
            .object [("type", .string "SOLID"),
              ("color", .array [.integer 0, .integer 0, .integer 0])]])
        [("type", .string "FRAME"), ("name", .string "Card")]))) none := by
  obtain ⟨-, -, -, -, -, -, hemit⟩ :=
    emit_putFills [("type", .string "FRAME"), ("name", .string "Card")]
  refine hemit _ _ (some ⟨Float.ofInt 1, Float.ofInt 0, Float.ofInt 0⟩) ?_ ?_ _ none 1
  · exact (Fill.firstSolid_iff ..).mpr rfl
  · exact (Fill.firstSolid_iff ..).mpr rfl

end Emitter

end Emitting

end SceneMarkup
