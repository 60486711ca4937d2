import CodeOutline.Proofs.Outline.Parents

/-!
# Every line is accounted for

A line that is read adds at most one node, and what is remarked on it depends on what it says. No line
is lost on the way and none is counted twice: what an outline holds of a line, its nodes and the
reports on it, is what became of the line when its turn came.

## Main definitions

* `Outline.Fate`: what becomes of a line
* `Outline.nodesOn`, `Outline.findingsOn`, `Outline.reportsOn`: what an outline holds of a line
* `Outline.Accounted`: an outline holds what became of its lines, and nothing else

## Main results

* `Reading.Sound.fate_step`: one line adds what its fate says
* `Fate.countP_indentation`, `Fate.countP_dropped`, `Fate.length_add_countP_declaredBefore`: how
  often a line is reported, and for what
* `Outline.accounted_ofText`: every line of a text is accounted for
-/

namespace CodeOutline.Outline

open Reading

variable {reading : Reading} {outline : Outline} {width number : Nat} {line : String} {node : Node}
  {nodes : List Node} {findings : List Finding} {lines : List String}

/-! ### The fate of a line -/

/-- What is found about the blanks in front of a line. -/
def indentationFindings (width : Nat) (line : String) : List Finding :=
  (indentationFinding width (leadingSpaces line)).toList

/-- What becomes of a line: the nodes that it adds, and the findings about it, in order. -/
inductive Fate (width number : Nat) (line : String) : List Node → List Finding → Prop
  | blank (hread : Line.read line = .ok .blank) : Fate width number line [] []
  | incomplete (hread : Line.read line = .ok .incomplete) : Fate width number line [] []
  | dropped {cause : LineError} (hread : Line.read line = .error cause) :
      Fate width number line [] (indentationFindings width line ++ [.dropped cause])
  | assignment {name value : String}
      (hread : Line.read line = .ok (.statement (.assignment name value))) :
      Fate width number line [] (indentationFindings width line)
  /-- its node is added, in a place that may be remarked -/
  | added {statement : Statement} {stated : Node} {place : Option Finding} (path : String)
      (hread : Line.read line = .ok (.statement statement))
      (hstated : Node.ofStatement? statement = some stated)
      (hplace : ∀ finding ∈ place, finding.isStructural = true) :
      Fate width number line [{ nodeOfLine width number line stated with path := path }]
        (indentationFindings width line ++ place.toList)
  /-- an earlier directory or file is opened again, in a place that may be remarked -/
  | reopened {statement : Statement} {stated : Node} {place : Option Finding} (path : String)
      (hread : Line.read line = .ok (.statement statement))
      (hstated : Node.ofStatement? statement = some stated)
      (hkind : stated.kind.isContainer = true)
      (hplace : ∀ finding ∈ place, finding.isStructural = true) :
      Fate width number line []
        (indentationFindings width line ++
          (place.toList ++ [.declaredBefore stated.kind path]))

namespace Fate

/-- What comes from a line carries its number, and the position and the hash that belong to it. -/
theorem eq_nodeOfLine (h : Fate width number line nodes findings) (hnode : node ∈ nodes) :
    ∃ statement stated, Line.read line = .ok (.statement statement) ∧
      Node.ofStatement? statement = some stated ∧
      node = { nodeOfLine width number line stated with path := node.path } := by
  cases h with
  | added path hread hstated =>
    obtain rfl := List.mem_singleton.1 hnode
    exact ⟨_, _, hread, hstated, rfl⟩
  | _ => simp at hnode

theorem line_eq (h : Fate width number line nodes findings) (hnode : node ∈ nodes) :
    node.line = number := by
  obtain ⟨statement, stated, -, -, heq⟩ := h.eq_nodeOfLine hnode
  rw [heq]
  rfl

/-- A line adds at most one node. -/
theorem pairwise (h : Fate width number line nodes findings) (R : Node → Node → Prop) :
    nodes.Pairwise R := by
  cases h <;> simp

end Fate

/-! ### How often a line is reported -/

/-- The line is blank, or a marker that is still being typed. -/
def isSilent (line : String) : Bool :=
  match Line.read line with
  | .ok .blank | .ok .incomplete => true
  | _ => false

/-- The line is an error. -/
def isDropped (line : String) : Bool :=
  match Line.read line with
  | .error _ => true
  | _ => false

/-- The line is a statement other than an assignment. -/
def isDescribed (line : String) : Bool :=
  match Line.read line with
  | .ok (.statement statement) => (Node.ofStatement? statement).isSome
  | _ => false

theorem countP_indentationFindings (code : String) :
    (indentationFindings width line).countP (·.code == code) =
      (leadingSpaces line % width != 0 && "indentation" == code).toNat := by
  unfold indentationFindings indentationFinding
  split
  · rename_i heven
    simp [heven]
  · rename_i huneven
    have hne : (leadingSpaces line % width != 0) = true := by simpa using huneven
    have hcode : (Finding.unevenIndentation (leadingSpaces line) width).code = "indentation" := rfl
    rw [hne, Option.toList_some, List.countP_singleton, hcode, Bool.true_and]
    cases "indentation" == code <;> rfl

/-- What is found about a place is found under codes of its own. -/
theorem countP_place {place : Option Finding} {code : String}
    (hplace : ∀ finding ∈ place, finding.isStructural = true)
    (hcode : code ≠ "made-top-level" ∧ code ≠ "auto-corrected-parent") :
    place.toList.countP (·.code == code) = 0 := by
  rw [List.countP_eq_zero]
  intro finding hfinding heq
  have hstructural := hplace finding (Option.mem_toList.1 hfinding)
  obtain rfl := beq_iff_eq.1 heq
  simp [Finding.isStructural, hcode] at hstructural

namespace Fate

variable (h : Fate width number line nodes findings)
include h

/-- How often a line is reported under a code that is not about the place of a node. -/
theorem countP_code {code : String}
    (hcode : code ≠ "made-top-level" ∧ code ≠ "auto-corrected-parent") :
    findings.countP (·.code == code) =
      (!isSilent line && (leadingSpaces line % width != 0 && "indentation" == code)).toNat
        + (isDropped line && "syntax-error" == code).toNat
        + (isDescribed line && nodes.isEmpty && "duplicate-path" == code).toNat := by
  -- the findings about a place come under none of these codes, so what is left are the two ends
  have hlast (finding : Finding) : [finding].countP (·.code == code) =
      (finding.code == code).toNat := by
    rw [List.countP_singleton]
    cases finding.code == code <;> rfl
  cases h with
  | blank hread | incomplete hread => simp [isSilent, isDropped, isDescribed, hread]
  | @dropped cause hread =>
    have hown : (Finding.dropped cause).code = "syntax-error" := rfl
    simp only [isSilent, isDropped, isDescribed, hread, List.countP_append,
      countP_indentationFindings, hlast, hown]
    simp
  | assignment hread =>
    simp only [isSilent, isDropped, isDescribed, hread, countP_indentationFindings,
      Node.ofStatement?]
    simp
  | added path hread hstated hplace =>
    simp only [isSilent, isDropped, isDescribed, hread, hstated, List.countP_append,
      countP_indentationFindings, countP_place hplace hcode]
    simp
  | @reopened _ stated _ path hread hstated hkind hplace =>
    have hown : (Finding.declaredBefore stated.kind path).code = "duplicate-path" := rfl
    simp only [isSilent, isDropped, isDescribed, hread, hstated, List.countP_append,
      countP_indentationFindings, countP_place hplace hcode, hlast, hown]
    simp

/-- A line is reported for its indentation once if it is uneven and the line says anything, and
never otherwise. -/
theorem countP_indentation : findings.countP (·.code == "indentation") =
    (!isSilent line && leadingSpaces line % width != 0).toNat := by
  rw [h.countP_code (by decide)]
  simp

/-- A line is reported for its syntax once if it is an error, and never otherwise. -/
theorem countP_dropped :
    findings.countP (·.code == "syntax-error") = (isDropped line).toNat := by
  rw [h.countP_code (by decide)]
  simp

/-- A line that describes a node adds it, or is reported once because its path is taken. Other lines
do neither. -/
theorem length_add_countP_declaredBefore :
    nodes.length + findings.countP (·.code == "duplicate-path") = (isDescribed line).toNat := by
  have hlength : nodes.length = (isDescribed line && !nodes.isEmpty).toNat := by
    cases h with
    | added path hread hstated => simp [isDescribed, hread, hstated]
    | _ => simp
  rw [h.countP_code (by decide), hlength]
  cases isDescribed line <;> cases nodes.isEmpty <;> simp

end Fate

/-! ### One line -/

namespace Reading

variable {statement : Statement} {stated : Node}

theorem remarks_note : (reading.note number findings).remarks =
    reading.remarks ++ findings.map (Remark.mk number) := rfl

/-- A line that describes a node adds it, unless a directory or file is there already. -/
theorem Sound.fate_place (h : reading.Sound) (width number : Nat)
    (hread : Line.read line = .ok (.statement statement))
    (hstated : Node.ofStatement? statement = some stated) :
    ∃ nodes findings, Fate width number line nodes (indentationFindings width line ++ findings) ∧
      (reading.place number (nodeOfLine width number line stated)).forest.nodes =
        reading.forest.nodes ++ nodes ∧
      (reading.place number (nodeOfLine width number line stated)).remarks =
        reading.remarks ++ findings.map (Remark.mk number) := by
  have hplace : ∀ finding ∈ reading.findingOf (nodeOfLine width number line stated),
      finding.isStructural = true := fun finding => isStructural_of_mem_resolve
  cases hearlier : reading.earlier? (nodeOfLine width number line stated) with
  | none =>
    rw [place_eq_grow hearlier]
    refine ⟨_, _, .added _ hread hstated hplace, Forest.nodes_grow h.parentOf_lt, ?_⟩
    rw [Option.toList_map]
  | some id =>
    have hkind : (nodeOfLine width number line stated).kind.isContainer = true :=
      isContainer_of_earlier? hearlier
    rw [place_eq_reopen hearlier]
    refine ⟨_, _, .reopened (reading.pathOf (nodeOfLine width number line stated)) hread hstated
      hkind hplace, (List.append_nil _).symm, ?_⟩
    rw [List.map_append, ← List.append_assoc, Option.toList_map]
    rfl

/-- One line adds what its fate says. -/
theorem Sound.fate_step (h : reading.Sound) (width number : Nat) (line : String) :
    ∃ nodes findings, Fate width number line nodes findings ∧
      (reading.step width number line).forest.nodes = reading.forest.nodes ++ nodes ∧
      (reading.step width number line).remarks =
        reading.remarks ++ findings.map (Remark.mk number) := by
  rw [step_eq]
  cases hread : Line.read line with
  | error cause =>
    simp only [describe?, ownFindings, hread]
    exact ⟨_, _, .dropped hread, (List.append_nil _).symm, rfl⟩
  | ok said =>
    cases said with
    | blank =>
      simp only [describe?, ownFindings, hread]
      exact ⟨_, _, .blank hread, (List.append_nil _).symm, rfl⟩
    | incomplete =>
      simp only [describe?, ownFindings, hread]
      exact ⟨_, _, .incomplete hread, (List.append_nil _).symm, rfl⟩
    | statement statement =>
      cases hstated : Node.ofStatement? statement with
      | none =>
        -- what describes no node is an assignment
        obtain ⟨name, value, rfl⟩ : ∃ name value, statement = .assignment name value := by
          cases statement with
          | assignment name value => exact ⟨name, value, rfl⟩
          | _ => simp [Node.ofStatement?] at hstated
        simp only [describe?, ownFindings, hread, hstated]
        exact ⟨_, _, .assignment hread, (List.append_nil _).symm, rfl⟩
      | some stated =>
        simp only [describe?, ownFindings, hread, hstated]
        -- what is said about the blanks comes in front of what is said about the place
        have hnoted : (reading.note number (indentationFindings width line)).Sound := h.note
        obtain ⟨nodes, findings, hfate, hnodes, hremarks⟩ :=
          hnoted.fate_place width number hread hstated
        refine ⟨nodes, _, hfate, hnodes, hremarks.trans ?_⟩
        rw [remarks_note, List.map_append, List.append_assoc]

end Reading

/-! ### All lines -/

/-- The nodes that come from the line of a number. -/
def nodesOn (outline : Outline) (number : Nat) : List Node :=
  outline.forest.nodes.filter (·.line == number)

/-- The findings about the line of a number. -/
def findingsOn (outline : Outline) (number : Nat) : List Finding :=
  (outline.remarks.filter (·.line == number)).map (·.finding)

/-- What is listed under the last number is what has come last. -/
theorem filter_append_last {α : Type} {numberOf : α → Nat} {front back : List α} {last : Nat}
    (hfront : ∀ a ∈ front, numberOf a < last) (hback : ∀ a ∈ back, numberOf a = last) (n : Nat) :
    (front ++ back).filter (numberOf · == n) =
      if n = last then back else front.filter (numberOf · == n) := by
  rw [List.filter_append]
  split
  · rename_i hlast
    have hnone : front.filter (numberOf · == n) = [] := by
      rw [List.filter_eq_nil_iff]
      intro a ha heq
      have hlt := hfront a ha
      rw [beq_iff_eq] at heq
      omega
    rw [hnone, List.nil_append, List.filter_eq_self]
    intro a ha
    rw [beq_iff_eq, hback a ha, hlast]
  · rename_i hother
    have hnone : back.filter (numberOf · == n) = [] := by
      rw [List.filter_eq_nil_iff]
      intro a ha heq
      rw [beq_iff_eq, hback a ha] at heq
      exact hother heq.symm
    rw [hnone, List.append_nil]

namespace Reading

theorem line_of_mem_nodes_after (h : node ∈ (after width lines).forest.nodes) :
    1 ≤ node.line ∧ node.line < lines.length + 1 := by
  obtain ⟨id, hid⟩ := Forest.mem_nodes_iff.1 h
  exact (continues_start width lines).fresh id node (Nat.zero_le id) hid

theorem line_of_mem_remarks_after {remark : Remark} (h : remark ∈ (after width lines).remarks) :
    1 ≤ remark.line ∧ remark.line < lines.length + 1 := by
  obtain ⟨remarks, heq, hlines⟩ := (continues_start width lines).remarks_eq
  rw [heq] at h
  exact hlines remark h

/-- What becomes of a line more; what became of the lines before it stays as it is. -/
theorem exists_fate_after (width : Nat) (lines : List String) (line : String) :
    ∃ nodes findings, Fate width (lines.length + 1) line nodes findings ∧
      (after width (lines ++ [line])).forest.nodes = (after width lines).forest.nodes ++ nodes ∧
      (after width (lines ++ [line])).remarks =
        (after width lines).remarks ++ findings.map (Remark.mk (lines.length + 1)) ∧
      ∀ number,
        (after width (lines ++ [line])).outline.nodesOn number =
            (if number = lines.length + 1 then nodes
              else (after width lines).outline.nodesOn number) ∧
          (after width (lines ++ [line])).outline.findingsOn number =
            if number = lines.length + 1 then findings
              else (after width lines).outline.findingsOn number := by
  obtain ⟨nodes, findings, hfate, hnodes, hremarks⟩ :=
    (sound_after width lines).fate_step width (lines.length + 1) line
  rw [after_append_singleton]
  refine ⟨nodes, findings, hfate, hnodes, hremarks, fun number => ⟨?_, ?_⟩⟩
  -- what was there has a lower number than what comes now, so nothing moves to another number
  · have hold : ∀ node ∈ (after width lines).forest.nodes, node.line < lines.length + 1 :=
      fun node hnode => (line_of_mem_nodes_after hnode).2
    have hnew : ∀ node ∈ nodes, node.line = lines.length + 1 := fun node => hfate.line_eq
    rw [nodesOn, forest_outline, hnodes, filter_append_last hold hnew]
    rfl
  · have hold : ∀ remark ∈ (after width lines).remarks, remark.line < lines.length + 1 :=
      fun remark hremark => (line_of_mem_remarks_after hremark).2
    have hnew : ∀ remark ∈ findings.map (Remark.mk (lines.length + 1)),
        remark.line = lines.length + 1 := List.forall_mem_map.2 fun _ _ => rfl
    rw [findingsOn, remarks_outline, hremarks, filter_append_last hold hnew]
    split
    · simp [Function.comp_def]
    · rfl

/-- What an outline holds of a line is what became of it. -/
theorem fate_after (width : Nat) (lines : List String) : ∀ line number,
    (line, number) ∈ lines.zipIdx 1 → Fate width number line
      ((after width lines).outline.nodesOn number)
      ((after width lines).outline.findingsOn number) := by
  induction lines using List.reverseRecOn with
  | nil => simp
  | append_singleton lines last ih =>
    intro line number hmem
    -- the account of a line is made when its turn comes, and later lines leave it alone
    obtain ⟨nodes, findings, hfate, -, -, hon⟩ := exists_fate_after width lines last
    rw [(hon number).1, (hon number).2]
    rw [List.zipIdx_append, List.mem_append] at hmem
    rcases hmem with hold | hlast
    · have hother : number ≠ lines.length + 1 := by
        have hnumber := (List.mem_zipIdx hold).2.1
        omega
      rw [if_neg hother, if_neg hother]
      exact ih line number hold
    · obtain ⟨rfl, rfl⟩ : line = last ∧ number = lines.length + 1 := by
        simpa [Nat.add_comm] using hlast
      rwa [if_pos rfl, if_pos rfl]

theorem nodes_rise_after (width : Nat) (lines : List String) :
    (after width lines).forest.nodes.Pairwise fun a b => a.line < b.line := by
  induction lines using List.reverseRecOn with
  | nil => simp [after, run, start, Forest.nodes, Forest.empty]
  | append_singleton lines line ih =>
    obtain ⟨nodes, findings, hfate, hnodes, -⟩ := exists_fate_after width lines line
    rw [hnodes, List.pairwise_append]
    refine ⟨ih, hfate.pairwise _, fun a ha b hb => ?_⟩
    rw [hfate.line_eq hb]
    exact (line_of_mem_nodes_after ha).2

theorem remarks_rise_after (width : Nat) (lines : List String) :
    (after width lines).remarks.Pairwise fun a b => a.line ≤ b.line := by
  induction lines using List.reverseRecOn with
  | nil => simp [after, run, start]
  | append_singleton lines line ih =>
    obtain ⟨nodes, findings, -, -, hremarks, -⟩ := exists_fate_after width lines line
    rw [hremarks, List.pairwise_append, List.pairwise_map]
    refine ⟨ih, List.pairwise_of_forall fun _ _ => Nat.le_refl _, fun a ha b hb => ?_⟩
    obtain ⟨finding, -, rfl⟩ := List.mem_map.1 hb
    exact Nat.le_of_lt (line_of_mem_remarks_after ha).2

end Reading

/-! ### The account of an outline -/

/-- The reports on the line of a number. -/
def reportsOn (outline : Outline) (number : Nat) : List Diagnostic :=
  outline.diagnostics.filter (·.line == number)

/-- The number of reports on a line under a code. -/
def countReports (outline : Outline) (number : Nat) (code : String) : Nat :=
  (outline.reportsOn number).countP (·.hasCode code)

theorem reportsOn_eq (outline : Outline) (number : Nat) : outline.reportsOn number =
    (outline.findingsOn number).map fun finding => (Remark.mk number finding).diagnostic := by
  rw [reportsOn, diagnostics, findingsOn, List.filter_map, List.map_map]
  refine List.map_congr_left fun remark hremark => ?_
  have hline : remark.line = number := beq_iff_eq.1 (List.mem_filter.1 hremark).2
  rw [← hline]
  rfl

theorem countReports_eq (outline : Outline) (number : Nat) (code : String) :
    outline.countReports number code =
      (outline.findingsOn number).countP (·.code == code) := by
  rw [countReports, reportsOn_eq, List.countP_map]
  rfl

/-- What an outline holds of a line: what became of it, and the reports of that. Each of the codes
comes up at most once, and the nodes and reports can be told from what the line says. -/
structure LineAccount (outline : Outline) (width number : Nat) (line : String) : Prop where
  fate : Fate width number line (outline.nodesOn number) (outline.findingsOn number)
  reportsOn_eq : outline.reportsOn number =
    (outline.findingsOn number).map fun finding => (Remark.mk number finding).diagnostic
  countReports_indentation : outline.countReports number "indentation" =
    (!isSilent line && leadingSpaces line % width != 0).toNat
  countReports_syntaxError :
    outline.countReports number "syntax-error" = (isDropped line).toNat
  /-- a node is added, or one and no more report says why not -/
  node_or_countReports : (outline.nodesOn number).length
    + outline.countReports number "duplicate-path" = (isDescribed line).toNat
  node_eq : ∀ node ∈ outline.nodesOn number, node.level = leadingSpaces line / width ∧
    node.column = node.level * width ∧ node.hash = contentHash line

/-- Every line is accounted for, and nothing comes from elsewhere. -/
structure Accounted (outline : Outline) (width : Nat) (lines : List String) : Prop where
  account : ∀ line number, (line, number) ∈ lines.zipIdx 1 → outline.LineAccount width number line
  node_line : ∀ node ∈ outline.forest.nodes, 1 ≤ node.line ∧ node.line ≤ lines.length
  report_line : ∀ report ∈ outline.diagnostics, 1 ≤ report.line ∧ report.line ≤ lines.length
  nodes_rise : outline.forest.nodes.Pairwise fun a b => a.line < b.line
  reports_rise : outline.diagnostics.Pairwise fun a b => a.line ≤ b.line

/-- What became of a line accounts for what the outline holds of it. -/
theorem Fate.lineAccount
    (h : Fate width number line (outline.nodesOn number) (outline.findingsOn number)) :
    outline.LineAccount width number line where
  fate := h
  reportsOn_eq := outline.reportsOn_eq number
  countReports_indentation := by rw [countReports_eq, h.countP_indentation]
  countReports_syntaxError := by rw [countReports_eq, h.countP_dropped]
  node_or_countReports := by rw [countReports_eq, h.length_add_countP_declaredBefore]
  node_eq node hnode := by
    obtain ⟨statement, stated, -, -, heq⟩ := h.eq_nodeOfLine hnode
    rw [heq]
    exact ⟨rfl, rfl, rfl⟩

/-- **Every line of a text is accounted for**, however wide a level. -/
theorem accounted_ofText (width : Nat) (text : String) :
    (ofText width text).Accounted (max width 1) (linesOf text) where
  account line number hmem := (fate_after (max width 1) (linesOf text) line number hmem).lineAccount
  node_line node hnode := by
    have hline := line_of_mem_nodes_after hnode
    omega
  report_line := by
    refine List.forall_mem_map.2 fun remark hremark => ?_
    have hline := line_of_mem_remarks_after hremark
    exact ⟨hline.1, Nat.le_of_lt_succ hline.2⟩
  nodes_rise := nodes_rise_after (max width 1) (linesOf text)
  reports_rise := List.pairwise_map.2 (remarks_rise_after (max width 1) (linesOf text))

end CodeOutline.Outline
