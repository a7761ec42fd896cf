import RenderTrace.Injection.Weaving

/-!
# Recognising tracker calls in changed trees

Trees are changed in several ways: bodies are replaced, texts are left out, spellings are evened out.
All these changes keep the kinds of nodes, and most nodes are changed child by child. Whether a
statement is a tracker call is told by the kinds of a few nodes and by the words of a path, and
whether a closure has a block as its body by kinds alone. So both are the same behind each such
change, which is shown here once for all of them.
-/

namespace RenderTrace

open Syntax

namespace Syntax.Node

variable {g : Node → Node} {k : Kind} {n : Node} {cs cs' : List Node}

/-! ### Changes child by child -/

/-- A change to trees that keeps nodes of a kind and acts on each of their children. -/
def ChildByChild (g : Node → Node) (k : Kind) : Prop :=
  ∀ cs, g (.node k cs) = .node k (cs.map g)

theorem ChildByChild.eq_nil_iff (hk : ChildByChild g k) : g (.node k cs) = .node k [] ↔ cs = [] := by
  rw [hk]
  simp

/-- Two children were two children before. -/
theorem ChildByChild.exists_pair (hk : ChildByChild g k) {a b : Node}
    (h : g (.node k cs) = .node k [a, b]) : ∃ a' b', cs = [a', b'] ∧ g a' = a := by
  obtain ⟨a', cs, rfl, ha, hcs⟩ := List.map_eq_cons_iff.1 (Node.node.inj ((hk cs).symm.trans h)).2
  obtain ⟨b', rfl, -⟩ := List.map_eq_singleton_iff.1 hcs
  exact ⟨a', b', rfl, ha⟩

section

variable (hkind : ∀ n, (g n).kind? = n.kind?)
include hkind

theorem isAbsent_of_keeps (n : Node) : (g n).isAbsent = n.isAbsent := by
  rw [isAbsent, is, hkind, isAbsent, is]

theorem exists_node_of_keeps (k : Kind) (cs : List Node) : ∃ cs', g (.node k cs) = .node k cs' := by
  have hnode := hkind (.node k cs)
  cases hg : g (.node k cs) with
  | node k' cs' =>
    rw [hg] at hnode
    obtain rfl := Option.some.inj hnode
    exact ⟨cs', rfl⟩
  | _ => rw [hg] at hnode; cases hnode

/-- What is a node of some kind behind a change was one before. -/
theorem exists_eq_node (h : g n = .node k cs') : ∃ cs, n = .node k cs := by
  have hnode := hkind n
  rw [h] at hnode
  cases n with
  | node k' cs =>
    obtain rfl := Option.some.inj hnode
    exact ⟨cs, rfl⟩
  | _ => cases hnode

theorem ChildByChild.exists_eq_node (hk : ChildByChild g k) (h : g n = .node k cs') :
    ∃ cs, n = .node k cs ∧ cs.map g = cs' := by
  obtain ⟨cs, rfl⟩ := Node.exists_eq_node hkind h
  rw [hk] at h
  exact ⟨cs, rfl, (Node.node.inj h).2⟩

/-! ### Paths -/

/-- The words of a path are the same behind a change, up to what this does to words, if those of the
segments are. -/
theorem segmentNames_of_keeps {t : String → String} (hpath : ChildByChild g .path)
    (hqualified : ChildByChild g .qualifiedPath)
    (hwords : ∀ segments segments', g (.node .list segments) = .node .list segments' →
      (wordsOf segments').map t = (wordsOf segments).map t) (p : Node) :
    (g p).segmentNames.map t = p.segmentNames.map t := by
  induction p using Node.segmentNames.induct with
  | case1 colons segments =>
    obtain ⟨segments', hsegments⟩ := exists_node_of_keeps hkind .list segments
    rw [hpath, List.map_cons, List.map_singleton, hsegments, segmentNames, segmentNames]
    exact hwords _ _ hsegments
  | case2 lt type as_ trait_ gt colons segments ih =>
    obtain ⟨segments', hsegments⟩ := exists_node_of_keeps hkind .list segments
    rw [hqualified]
    simp only [List.map_cons, List.map_nil]
    rw [hsegments, segmentNames, segmentNames, List.map_append, List.map_append, ih,
      hwords _ _ hsegments]
  | case3 p hnot hunqualified =>
    -- what has the shape of a path behind the change had it before
    rw [segmentNames.eq_3 p hnot hunqualified, segmentNames.eq_3]
    · intro colons segments h
      obtain ⟨cs, rfl, hcs⟩ := hpath.exists_eq_node hkind h
      obtain ⟨colons, cs, rfl, -, hcs⟩ := List.map_eq_cons_iff.1 hcs
      obtain ⟨list, rfl, hlist⟩ := List.map_eq_singleton_iff.1 hcs
      obtain ⟨segments, rfl⟩ := exists_eq_node hkind hlist
      exact hnot _ _ rfl
    · intro lt type as_ trait_ gt colons segments h
      obtain ⟨cs, rfl, hcs⟩ := hqualified.exists_eq_node hkind h
      obtain ⟨lt, cs, rfl, -, hcs⟩ := List.map_eq_cons_iff.1 hcs
      obtain ⟨type, cs, rfl, -, hcs⟩ := List.map_eq_cons_iff.1 hcs
      obtain ⟨as_, cs, rfl, -, hcs⟩ := List.map_eq_cons_iff.1 hcs
      obtain ⟨trait_, cs, rfl, -, hcs⟩ := List.map_eq_cons_iff.1 hcs
      obtain ⟨gt, cs, rfl, -, hcs⟩ := List.map_eq_cons_iff.1 hcs
      obtain ⟨colons, cs, rfl, -, hcs⟩ := List.map_eq_cons_iff.1 hcs
      obtain ⟨list, rfl, hlist⟩ := List.map_eq_singleton_iff.1 hcs
      obtain ⟨segments, rfl⟩ := exists_eq_node hkind hlist
      exact hunqualified _ _ _ _ _ _ _ rfl

end

end Syntax.Node

namespace Injector

open Syntax.Node

theorem plainBlock?_eq_some {body b : Node} :
    plainBlock? body = some b ↔ body = .node .exprBlock [.list [], .absent, b] := by
  constructor
  · intro h
    unfold plainBlock? at h
    split at h
    · obtain rfl := Option.some.inj h
      rfl
    · cases h
  · rintro rfl
    rfl

section

variable {g : Node → Node} (hkind : ∀ n, (g n).kind? = n.kind?)
include hkind

/-- A statement is a tracker call behind a change if it was one before: the change acts child by
child on calls and their paths, and on a call with what ends the statement. -/
theorem isTrackerCall_of_keeps (hcall : ChildByChild g .exprCall) (hnamed : ChildByChild g .exprPath)
    (hstmt : ∀ parts semi, g (.node .stmtExpr [.node .exprCall parts, semi]) =
      .node .stmtExpr [g (.node .exprCall parts), g semi])
    (hpair : ∀ cs e semi, g (.node .stmtExpr cs) = .node .stmtExpr [e, semi] →
      ∃ e' semi', cs = [e', semi'] ∧ g e' = e)
    (hentry : ∀ p, ((g p).segmentNames.getLast? == some Injection.trackerEntry) =
      (p.segmentNames.getLast? == some Injection.trackerEntry)) (n : Node) :
    isTrackerCall (g n) = isTrackerCall n := by
  by_cases hshape : ∃ attrs attrs' path args semi, n = .node .stmtExpr
      [.node .exprCall [attrs, .node .exprPath [attrs', path], args], semi]
  · obtain ⟨attrs, attrs', path, args, semi, rfl⟩ := hshape
    rw [hstmt, hcall, List.map_cons, List.map_cons, List.map_singleton, hnamed, List.map_cons,
      List.map_singleton]
    rw [isTrackerCall, isTrackerCall, isAbsent_of_keeps hkind, hentry]
  · have hno : ∀ attrs attrs' path args semi, n ≠ .node .stmtExpr
        [.node .exprCall [attrs, .node .exprPath [attrs', path], args], semi] :=
      fun attrs attrs' path args semi h ↦ hshape ⟨attrs, attrs', path, args, semi, h⟩
    rw [isTrackerCall.eq_2 n fun _ _ _ _ _ ↦ hno _ _ _ _ _, isTrackerCall.eq_2]
    intro attrs attrs' path args semi h
    obtain ⟨cs, rfl⟩ := exists_eq_node hkind h
    obtain ⟨call, semi, rfl, heq⟩ := hpair _ _ _ h
    obtain ⟨parts, rfl, hparts⟩ := hcall.exists_eq_node hkind heq
    obtain ⟨attrs, parts, rfl, -, hparts⟩ := List.map_eq_cons_iff.1 hparts
    obtain ⟨callee, parts, rfl, hcallee, hparts⟩ := List.map_eq_cons_iff.1 hparts
    obtain ⟨args, rfl, -⟩ := List.map_eq_singleton_iff.1 hparts
    obtain ⟨named, rfl, hpath⟩ := hnamed.exists_eq_node hkind hcallee
    obtain ⟨attrs', named, rfl, -, hpath⟩ := List.map_eq_cons_iff.1 hpath
    obtain ⟨path, rfl, -⟩ := List.map_eq_singleton_iff.1 hpath
    exact hno _ _ _ _ _ rfl

/-- A block begins with a tracker call behind a change if it did before. -/
theorem isInstrumented_of_keeps (hblock : ChildByChild g .block)
    (hgroup : ∀ n d cs', g n = .group d cs' ↔ ∃ cs, n = .group d cs ∧ cs.map g = cs')
    (hhead : ∀ n, (g n).children.head? = n.children.head?.map g)
    (hcall : ∀ n, isTrackerCall (g n) = isTrackerCall n) (block : Node) :
    isInstrumented (g block) = isInstrumented block := by
  by_cases hshape : ∃ d statements, block = .node .block [.group d [statements]]
  · obtain ⟨d, statements, rfl⟩ := hshape
    rw [hblock, List.map_singleton, (hgroup _ d [g statements]).2 ⟨_, rfl, rfl⟩, isInstrumented,
      statementsOf, hhead, isInstrumented, statementsOf]
    cases statements.children.head? with
    | none => rfl
    | some statement => exact hcall statement
  · have hno : ∀ d statements, block ≠ .node .block [.group d [statements]] :=
      fun d statements h ↦ hshape ⟨d, statements, h⟩
    rw [isInstrumented, isInstrumented, statementsOf.eq_2 block fun _ _ ↦ hno _ _,
      statementsOf.eq_2]
    intro d statements h
    obtain ⟨cs, rfl, hcs⟩ := hblock.exists_eq_node hkind h
    obtain ⟨group, rfl, heq⟩ := List.map_eq_singleton_iff.1 hcs
    obtain ⟨inside, rfl, hinside⟩ := (hgroup _ _ _).1 heq
    obtain ⟨statements, rfl, -⟩ := List.map_eq_singleton_iff.1 hinside
    exact hno _ _ rfl

/-- The body of a closure is a plain block behind a change if it was one before. -/
theorem plainBlock?_of_keeps (hblock : ChildByChild g .exprBlock)
    (hlist : ∀ cs, g (.node .list cs) = .node .list [] ↔ cs = [])
    (habsent : ∀ cs, g (.node .absent cs) = .node .absent [] ↔ cs = []) (body : Node) :
    plainBlock? (g body) = (plainBlock? body).map g := by
  cases hplain : plainBlock? body with
  | some b =>
    obtain rfl := plainBlock?_eq_some.1 hplain
    rw [Option.map_some, plainBlock?_eq_some, hblock, List.map_cons, List.map_cons,
      List.map_singleton]
    rw [Node.list, Node.absent, (hlist []).2 rfl, (habsent []).2 rfl]
  | none =>
    rw [Option.map_none, Option.eq_none_iff_forall_ne_some]
    intro b hb
    obtain ⟨cs, rfl, hcs⟩ := hblock.exists_eq_node hkind (plainBlock?_eq_some.1 hb)
    obtain ⟨attrs, cs, rfl, hattrs, hcs⟩ := List.map_eq_cons_iff.1 hcs
    obtain ⟨label, cs, rfl, hlabel, hcs⟩ := List.map_eq_cons_iff.1 hcs
    obtain ⟨block, rfl, -⟩ := List.map_eq_singleton_iff.1 hcs
    obtain ⟨inside, rfl⟩ := exists_eq_node hkind hattrs
    obtain ⟨inside', rfl⟩ := exists_eq_node hkind hlabel
    obtain rfl := (hlist inside).1 hattrs
    obtain rfl := (habsent inside').1 hlabel
    cases hplain

end

end Injector

end RenderTrace
