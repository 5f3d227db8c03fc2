import Backchain.Proofs.Renderers
import Backchain.ProofTree.Printer
import Backchain.Samples

/-! Printed proofs. A node is never broken if its line fits, and then the proof is printed as the
lines of its nodes in pre-order, each indented by its depth. How far a line goes is decided by what
follows a judgment up to the next newline, and that is the rest of the node's own line, however many
trees end there.
-/

namespace Backchain

-----------------------------------------------------------------------------------------
-- Plain text
-----------------------------------------------------------------------------------------

namespace Text

theorem isPlain_repr (n : Nat) : isPlain n.repr = true := by
  refine isPlain_iff.mpr fun c member => ?_
  rw [Nat.toList_repr] at member
  have digit := Char.isDigit_iff_toNat.mp (Nat.isDigit_of_mem_toDigits (by omega) (by omega) member)
  have zero : '0'.toNat = 0x30 := rfl
  have nine : '9'.toNat = 0x39 := rfl
  omega

theorem isPlain_spaces (n : Nat) : isPlain (String.ofList (List.replicate n ' ')) = true := by
  refine isPlain_iff.mpr fun c member => ?_
  rw [String.toList_ofList, List.mem_replicate] at member
  rw [member.2]
  decide

/-- Plain text has neither of the characters that end a line. -/
theorem isLine_of_isPlain {text : String} (plain : isPlain text = true) (filled : text ≠ "")
    : IsLine text := by
  have absent {c : Char} (control : c.toNat < 0x20) : c ∉ text.toList := by
    intro member
    have printable := (isPlain_iff.mp plain c member).1
    omega
  refine ⟨absent (by decide), mt String.toList_eq_nil_iff.mp filled, fun ended => ?_⟩
  exact absent (by decide) (List.mem_of_getLast? ended)

theorem lines_intercalate {texts : List String} (each : ∀ text ∈ texts, IsLine text)
    : lines ("\n".intercalate texts) = texts := by
  rw [lines, linesFrom_intercalate each, List.map_map]
  simp

end Text

/-- Plain text takes one column for each character, also in a document, by induction on the
document.
-/
theorem Renderer.FillsLines.flatWidth_eq_length {renderer : Renderer} {measure : String → Nat}
    (fills : renderer.FillsLines measure) {d : Doc} (flat : d.canBeFlat = true)
    (plain : Text.isPlain (Piece.written d.flatPieces) = true)
    : d.flatWidth measure = (Piece.written d.flatPieces).length := by
  induction d with
  | empty => rfl
  | text style content =>
      rw [Doc.flatPieces, Piece.written_text] at plain ⊢
      exact fills.measured content plain
  | line => rfl
  | hardline => rfl
  | append first second ihf ihs =>
      obtain ⟨here, there⟩ := Bool.and_eq_true_iff.mp flat
      rw [Doc.flatPieces, Piece.written_append, Text.isPlain_append, Bool.and_eq_true_iff] at plain
      rw [Doc.flatWidth, if_pos here, ihf here plain.1, ihs there plain.2, Doc.flatPieces,
        Piece.written_append, String.length_append]
  | nest more inner ih => exact ih flat plain
  | group inner ih => exact ih flat plain

-----------------------------------------------------------------------------------------
-- Names
-----------------------------------------------------------------------------------------

namespace Term

mutual
/-- The names of the variables and constructors of a term. -/
def names : Term → List Symbol
  | .var x => [x.name]
  | .app head args => head :: namesAll args
  | .abs binder body => binder.name :: body.names

/-- The names of the variables and constructors of several terms. -/
def namesAll : List Term → List Symbol
  | [] => []
  | t :: rest => t.names ++ namesAll rest
end

theorem isPlain_display {x : Variable} (plain : Text.isPlain x.name = true)
    : Text.isPlain x.display = true := by
  have stamped : Text.isPlain (x.name ++ "#" ++ toString x.stamp) = true := by
    rw [Text.isPlain_append, Text.isPlain_append, plain]
    exact Text.isPlain_repr x.stamp
  rw [Variable.display]
  split
  · exact plain
  · exact stamped

theorem isPlain_flatTextRest {ts : List Term}
    (each : ∀ t ∈ ts, (∀ name ∈ t.names, Text.isPlain name = true)
      → Text.isPlain t.flatText = true)
    (plain : ∀ name ∈ namesAll ts, Text.isPlain name = true)
    : Text.isPlain (flatTextRest ts) = true := by
  induction ts with
  | nil => rfl
  | cons t rest ih =>
      simp only [namesAll, List.forall_mem_append] at plain
      have first := each t List.mem_cons_self plain.1
      have others := ih (fun u member => each u (List.mem_cons_of_mem t member)) plain.2
      rw [flatTextRest, Text.isPlain_append, Text.isPlain_append, first, others]
      rfl

/-- A term of plain names is plain text on one line, by induction on the term. -/
theorem isPlain_flatText {t : Term} (plain : ∀ name ∈ t.names, Text.isPlain name = true)
    : Text.isPlain t.flatText = true := by
  induction t with
  | var x => exact isPlain_display (plain x.name List.mem_cons_self)
  | app head args ih =>
      obtain ⟨named, below⟩ := List.forall_mem_cons.mp plain
      cases args with
      | nil => exact named
      | cons arg rest =>
          simp only [namesAll, List.forall_mem_append] at below
          have first := ih arg List.mem_cons_self below.1
          have others := isPlain_flatTextRest
            (fun t member => ih t (List.mem_cons_of_mem arg member)) below.2
          simp only [flatText, Text.isPlain_append, named, first, others]
          rfl
  | abs binder body ih =>
      obtain ⟨named, below⟩ := List.forall_mem_cons.mp plain
      simp only [flatText, Text.isPlain_append, isPlain_display named, ih below]
      rfl

end Term

-----------------------------------------------------------------------------------------
-- Trees
-----------------------------------------------------------------------------------------

/-- Texts of which each starts on a new line. -/
def Text.onNewLines (texts : List String) : String := String.join (texts.map ("\n" ++ ·))

theorem Text.onNewLines_cons (text : String) (rest : List String)
    : onNewLines (text :: rest) = "\n" ++ text ++ onNewLines rest := by
  simp [onNewLines]

theorem Text.onNewLines_append (texts others : List String)
    : onNewLines (texts ++ others) = onNewLines texts ++ onNewLines others := by
  simp [onNewLines, String.join_append]

/-- The newlines are those between the texts and one before, by induction on the texts. -/
theorem Text.onNewLines_eq_intercalate {texts : List String} (inhabited : texts ≠ [])
    : onNewLines texts = "\n" ++ "\n".intercalate texts := by
  induction texts with
  | nil => exact absurd rfl inhabited
  | cons text rest ih =>
      rw [onNewLines_cons]
      cases rest with
      | nil => simp [onNewLines]
      | cons next rest =>
          rw [ih (List.cons_ne_nil next rest), String.intercalate_cons_cons]
          simp only [String.append_assoc]

namespace ProofTree

mutual
/-- The names of the terms and rules that a printed tree shows. -/
def names : ProofTree → List Symbol
  | .unproved goal => goal.term.names
  | .derived goal inst children => inst.rule.name :: goal.term.names ++ namesAll children

/-- The names that several printed trees show. -/
def namesAll : List ProofTree → List Symbol
  | [] => []
  | tree :: rest => tree.names ++ namesAll rest
end

/-- What is printed of a node: its judgment and the rule that it is derived by. -/
def nodeText : ProofTree → String
  | .unproved goal => goal.term.flatText ++ " by ?"
  | .derived goal inst _ => goal.term.flatText ++ " by rule " ++ inst.rule.name

/-- Two spaces for each level above a node. -/
def indentation (depth : Nat) : String := String.ofList (List.replicate (2 * depth) ' ')

mutual
/-- The lines of the nodes of a tree in pre-order, with its root at the given depth. -/
def nodeLines (depth : Nat) : ProofTree → List String
  | .unproved goal => [indentation depth ++ (ProofTree.unproved goal).nodeText]
  | .derived goal inst children =>
      (indentation depth ++ (ProofTree.derived goal inst children).nodeText)
        :: nodeLinesAll (depth + 1) children

/-- The lines of the nodes of several trees, tree by tree. -/
def nodeLinesAll (depth : Nat) : List ProofTree → List String
  | [] => []
  | tree :: rest => tree.nodeLines depth ++ nodeLinesAll depth rest
end

/-- The document of a node without those of its subtrees. -/
def nodeDoc : ProofTree → Doc
  | .unproved goal => goal.doc ++ .space ++ .keyword "by" ++ .space ++ .punctuation "?"
  | .derived goal inst _ =>
      goal.doc ++ .space ++ .keyword "by" ++ .space ++ .keyword "rule" ++ .space
        ++ .styled .rule inst.rule.name

theorem reads_nodeDoc (tree : ProofTree) : tree.nodeDoc.Reads tree.nodeText := by
  have blank := Doc.Reads.text none " "
  cases tree with
  | unproved goal =>
      have whole := (((goal.term.reads_docAt 0).append blank).append
        (.text (some .keyword) "by")).append blank |>.append (.text (some .punctuation) "?")
      simp only [String.append_assoc] at whole
      exact whole
  | derived goal inst children =>
      have ruled := (((goal.term.reads_docAt 0).append blank).append
        (.text (some .keyword) "by")).append blank |>.append (.text (some .keyword) "rule")
      have whole := (ruled.append blank).append (.text (some .rule) inst.rule.name)
      simp only [String.append_assoc] at whole
      rw [nodeText, String.append_assoc]
      exact whole

theorem isGrouped_nodeDoc (tree : ProofTree) : tree.nodeDoc.isGrouped = true := by
  cases tree <;> simp [nodeDoc, Judgment.doc, Term.isGrouped_doc, Doc.space, Doc.plain,
    Doc.keyword, Doc.punctuation, Doc.styled]

theorem isPlain_nodeText {tree : ProofTree} (plain : ∀ name ∈ tree.names, Text.isPlain name = true)
    : Text.isPlain tree.nodeText = true := by
  cases tree with
  | unproved goal =>
      rw [nodeText, Text.isPlain_append, Term.isPlain_flatText plain]
      rfl
  | derived goal inst children =>
      simp only [names, List.cons_append, List.forall_mem_cons, List.forall_mem_append] at plain
      rw [nodeText, Text.isPlain_append, Text.isPlain_append, Term.isPlain_flatText plain.2.1,
        plain.1]
      rfl

/-- The line of a node is plain text. -/
theorem isPlain_nodeLine {tree : ProofTree}
    (plain : ∀ name ∈ tree.names, Text.isPlain name = true) (depth : Nat)
    : Text.isPlain (indentation depth ++ tree.nodeText) = true := by
  rw [Text.isPlain_append, indentation, Text.isPlain_spaces, isPlain_nodeText plain]
  rfl

theorem mem_namesAll {name : Symbol} {trees : List ProofTree}
    : name ∈ namesAll trees ↔ ∃ tree ∈ trees, name ∈ tree.names := by
  induction trees with
  | nil => simp [namesAll]
  | cons tree rest ih => simp [namesAll, ih]

theorem mem_names_of_child {goal : Judgment} {inst : RuleInstance} {children : List ProofTree}
    {child : ProofTree} (member : child ∈ children) {name : Symbol} (shown : name ∈ child.names)
    : name ∈ (ProofTree.derived goal inst children).names :=
  List.mem_append_right _ (mem_namesAll.mpr ⟨child, member, shown⟩)

theorem mem_nodeLinesAll {depth : Nat} {line : String} {trees : List ProofTree}
    : line ∈ nodeLinesAll depth trees ↔ ∃ tree ∈ trees, line ∈ tree.nodeLines depth := by
  induction trees with
  | nil => simp [nodeLinesAll]
  | cons tree rest ih => simp [nodeLinesAll, ih]

theorem doc_unproved (goal : Judgment)
    : (ProofTree.unproved goal).doc = (ProofTree.unproved goal).nodeDoc := by
  rw [doc, nodeDoc]

theorem doc_derived (goal : Judgment) (inst : RuleInstance) (children : List ProofTree)
    : (ProofTree.derived goal inst children).doc
      = (ProofTree.derived goal inst children).nodeDoc ++ .nest 2 (docBelow children) := by
  rw [doc, nodeDoc]

section

variable {renderer : Renderer} {measure : String → Nat} (fills : renderer.FillsLines measure)
  {width : Nat}

include fills

/-- The line of a node takes the columns of its indentation and of its document. -/
theorem length_nodeLine {tree : ProofTree}
    (plain : ∀ name ∈ tree.names, Text.isPlain name = true) (depth : Nat)
    : (indentation depth ++ tree.nodeText).length
      = 2 * depth + tree.nodeDoc.flatWidth measure := by
  have text := isPlain_nodeText plain
  rw [← tree.reads_nodeDoc.written] at text
  rw [fills.flatWidth_eq_length tree.reads_nodeDoc.flat text, tree.reads_nodeDoc.written,
    String.length_append]
  simp [indentation]

/-- A node whose line fits is laid out on one line if a newline or the end comes next. -/
theorem eq_nodeText_of_laid {tree : ProofTree}
    (plain : ∀ name ∈ tree.names, Text.isPlain name = true) {depth : Nat}
    (fits : (indentation depth ++ tree.nodeText).length ≤ width) {rest : List Doc}
    (ends : Doc.lineWidth measure rest = 0) {text : String} {after : Nat}
    (laid : tree.nodeDoc.Laid measure width (2 * depth) .broken rest (2 * depth) text after)
    : text = tree.nodeText := by
  have line : 2 * depth + Doc.lineWidth measure (tree.nodeDoc :: rest) ≤ width := by
    rwa [Doc.lineWidth_cons tree.reads_nodeDoc.flat, ends, Nat.add_zero,
      ← length_nodeLine fills plain]
  rw [(laid.eq_of_isGrouped tree.isGrouped_nodeDoc line).1, tree.reads_nodeDoc.written]

end

/-- Subtrees start with a newline, and if there are none, what follows them comes next. -/
theorem lineWidth_docBelow {measure : String → Nat} {rest : List Doc}
    (ends : Doc.lineWidth measure rest = 0) (trees : List ProofTree)
    : Doc.lineWidth measure (docBelow trees :: rest) = 0 := by
  cases trees with
  | nil =>
      rw [docBelow, Doc.lineWidth_cons rfl, ends]
      rfl
  | cons tree trees => rfl

/-- A tree at a depth is printed on the lines of its nodes, whatever follows on new lines. -/
def PrintsLines (measure : String → Nat) (width depth : Nat) (tree : ProofTree) : Prop :=
  ∀ rest text after, Doc.lineWidth measure rest = 0
    → tree.doc.Laid measure width (2 * depth) .broken rest (2 * depth) text after
    → "\n" ++ indentation depth ++ text = Text.onNewLines (tree.nodeLines depth)

/-- Subtrees are printed on the lines of their nodes if each of them is, by induction on the
subtrees.
-/
theorem eq_nodeLinesAll_of_laid {measure : String → Nat} {width depth : Nat}
    {trees : List ProofTree} (each : ∀ tree ∈ trees, tree.PrintsLines measure width depth)
    {rest : List Doc} (ends : Doc.lineWidth measure rest = 0) {column : Nat} {text : String}
    {after : Nat}
    (laid : (docBelow trees).Laid measure width (2 * depth) .broken rest column text after)
    : text = Text.onNewLines (nodeLinesAll depth trees) := by
  induction trees generalizing column text with
  | nil =>
      rw [docBelow] at laid
      cases laid
      rfl
  | cons tree trees ih =>
      rw [docBelow] at laid
      cases laid with
      | append left right =>
          cases left with
          | append newline printed =>
              cases newline
              have next := lineWidth_docBelow ends trees
              have first := each tree List.mem_cons_self _ _ _ next printed
              have others := ih (fun other member => each other (List.mem_cons_of_mem tree member))
                right
              rw [others, nodeLinesAll, Text.onNewLines_append, ← first]
              rfl

/-- A tree whose lines all fit is printed on them, by induction on the tree. -/
theorem printsLines {renderer : Renderer} {measure : String → Nat}
    (fills : renderer.FillsLines measure) {width : Nat} {tree : ProofTree}
    (plain : ∀ name ∈ tree.names, Text.isPlain name = true) {depth : Nat}
    (fits : ∀ line ∈ tree.nodeLines depth, line.length ≤ width)
    : tree.PrintsLines measure width depth := by
  induction tree generalizing depth with
  | unproved goal =>
      intro rest text after ends laid
      rw [doc_unproved] at laid
      rw [eq_nodeText_of_laid fills plain (fits _ List.mem_cons_self) ends laid, nodeLines,
        Text.onNewLines_cons]
      simp [Text.onNewLines, String.append_assoc]
  | derived goal inst children ih =>
      intro rest text after ends laid
      have below : ∀ child ∈ children, child.PrintsLines measure width (depth + 1) := by
        intro child member
        refine ih child member (fun name shown => ?_) fun line printed => ?_
        · exact plain name (mem_names_of_child member shown)
        · have listed := mem_nodeLinesAll.mpr ⟨child, member, printed⟩
          exact fits line (List.mem_cons_of_mem _ listed)
      rw [doc_derived] at laid
      cases laid with
      | append node nested =>
          cases nested with
          | nest others =>
              have next : Doc.lineWidth measure (.nest 2 (docBelow children) :: rest) = 0 :=
                lineWidth_docBelow ends children
              rw [eq_nodeText_of_laid fills plain (fits _ List.mem_cons_self) next node,
                eq_nodeLinesAll_of_laid below ends others, nodeLines, Text.onNewLines_cons]
              simp only [String.append_assoc]

theorem length_nodeLinesAll {depth : Nat} {trees : List ProofTree}
    (each : ∀ tree ∈ trees, (tree.nodeLines depth).length = tree.nodeCount)
    : (nodeLinesAll depth trees).length = totalNodeCount trees := by
  induction trees with
  | nil => rfl
  | cons tree rest ih =>
      have others := ih fun other member => each other (List.mem_cons_of_mem tree member)
      rw [nodeLinesAll, List.length_append, each tree List.mem_cons_self, others, totalNodeCount]

/-- There is one line for each node, by induction on the tree. -/
theorem length_nodeLines (depth : Nat) (tree : ProofTree)
    : (tree.nodeLines depth).length = tree.nodeCount := by
  induction tree generalizing depth with
  | unproved goal => simp [nodeLines, nodeCount]
  | derived goal inst children ih =>
      have below := length_nodeLinesAll fun child member => ih child member (depth + 1)
      rw [nodeLines, List.length_cons, below, nodeCount, Nat.add_comm]

/-- Every line is one by itself, by induction on the tree. -/
theorem isLine_of_mem_nodeLines {tree : ProofTree}
    (plain : ∀ name ∈ tree.names, Text.isPlain name = true) {depth : Nat} {line : String}
    (printed : line ∈ tree.nodeLines depth)
    : Text.IsLine line := by
  induction tree generalizing depth with
  | unproved goal =>
      obtain rfl := List.mem_singleton.mp printed
      exact Text.isLine_of_isPlain (isPlain_nodeLine plain depth) (by simp [nodeText])
  | derived goal inst children ih =>
      rcases List.mem_cons.mp printed with rfl | printed
      · exact Text.isLine_of_isPlain (isPlain_nodeLine plain depth) (by simp [nodeText])
      · obtain ⟨child, member, printed⟩ := mem_nodeLinesAll.mp printed
        refine ih child member (fun name shown => ?_) printed
        exact plain name (mem_names_of_child member shown)

/-- A proof whose lines all fit is printed as one line for each node, in pre-order and indented by
two columns for each level: the judgment on one line and the rule that it is derived by. This is for
every renderer that breaks a group only where its flat form and the rest of the line do not fit, and
for names of printable ASCII characters, which take one column each and do not end a line. Rendered
within the columns of a display, the proof then has as many lines as nodes.
-/
theorem text_eq_nodeLines {renderer : Renderer} {measure : String → Nat}
    (fills : renderer.FillsLines measure) {tree : ProofTree}
    (plain : ∀ name ∈ tree.names, Text.isPlain name = true) {width : Nat}
    (fits : ∀ line ∈ tree.nodeLines 0, line.length ≤ width)
    : renderer.text width tree.doc = "\n".intercalate (tree.nodeLines 0)
      ∧ (width = Doc.displayColumns
        → let lines := Text.lines (renderer.text Doc.displayColumns tree.doc)
          lines = tree.nodeLines 0 ∧ lines.length = tree.nodeCount) := by
  have inhabited : tree.nodeLines 0 ≠ [] := by
    cases tree <;> simp [nodeLines]
  obtain ⟨column, laid⟩ := fills.laid width tree.doc
  have printed := printsLines fills plain fits [] _ column rfl laid
  rw [Text.onNewLines_eq_intercalate inhabited, String.append_assoc] at printed
  have text : renderer.text width tree.doc = "\n".intercalate (tree.nodeLines 0) :=
    (String.append_right_inj "\n").mp printed
  refine ⟨text, ?_⟩
  rintro rfl
  have split : Text.lines (renderer.text Doc.displayColumns tree.doc) = tree.nodeLines 0 := by
    rw [text]
    exact Text.lines_intercalate fun line printed => isLine_of_mem_nodeLines plain printed
  exact ⟨split, by rw [split, length_nodeLines]⟩

/-- A proof with two branches of which one is unfinished. -/
def unfinishedOrder : ProofTree :=
  let rule (name : Symbol) (known : (Samples.order.get? name).isSome) : RuleInstance :=
    ⟨(Samples.order.get? name).get known, .identity⟩
  let x : Term := .var ⟨"x", 1⟩
  let identity : Term := .abs ⟨"y", 0⟩ (Samples.v "y")
  .derived (Samples.le x identity) (rule "le_trans" (by decide))
    [
      .derived (Samples.le x (Samples.succ x)) (rule "le_s" (by decide))
        [.derived (Samples.le x x) (rule "le_refl" (by decide)) []],
      .unproved (Samples.le (Samples.succ x) identity)
    ]

theorem text_eq_nodeLines_of_unfinishedOrder
    : Renderer.standard.FillsLines Text.displayWidth
      ∧ (∀ name ∈ unfinishedOrder.names, Text.isPlain name = true)
      ∧ (∀ line ∈ unfinishedOrder.nodeLines 0, line.length ≤ 32)
      ∧ unfinishedOrder.doc.render 32
        = "le(x#1, \\y. y) by rule le_trans\n  le(x#1, s(x#1)) by rule le_s\n    "
          ++ "le(x#1, x#1) by rule le_refl\n  le(s(x#1), \\y. y) by ?"
      ∧ unfinishedOrder.displayLines.length = 4 := by
  have fills := Renderer.standard_fillsLines
  have plain : ∀ name ∈ unfinishedOrder.names, Text.isPlain name = true := by decide
  have fits : ∀ line ∈ unfinishedOrder.nodeLines 0, line.length ≤ 32 := by decide
  have within : ∀ line ∈ unfinishedOrder.nodeLines 0, line.length ≤ Doc.displayColumns := by
    intro line printed
    exact Nat.le_trans (fits line printed) (by decide)
  refine ⟨fills, plain, fits, ?_, ((text_eq_nodeLines fills plain within).2 rfl).2⟩
  rw [Doc.render, (text_eq_nodeLines fills plain fits).1]
  decide

end ProofTree

end Backchain
