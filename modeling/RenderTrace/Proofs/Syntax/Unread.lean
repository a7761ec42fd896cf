import RenderTrace.Proofs.Syntax.Head
import RenderTrace.Proofs.Syntax.Unread.Statement

/-!
# The macros in what is read from a forest

The rules of the grammar are tied together by the depth of their calls, so what holds of each of
them, given readers of which it holds, holds of all by induction on the depth
(`Grammar.readers_read`). For whole forests: the macros in a tree that is read from one have fewer
tokens as arguments than there are in the forest (`Reader.within_of_run`).
-/

namespace RenderTrace.Syntax

open Std.Do Yield

set_option mvcgen.warning false

namespace Grammar

variable {w : Nat}

theorem rule_reads {self : Readers} (hself : self.Read w) {n : Nonterminal} (hn : n.Within w) :
    Reads w (rule self n) := by
  cases n with
  | type plus => exact type_reads hself plus
  | bound style => exact bound_reads hself style
  | expression structs => exact expression_reads hself structs
  | operand structs => exact operand_reads hself structs
  | operators left structs base => exact operators_reads hself structs base hn
  | leading => exact leading_reads hself
  | pattern => exact pattern_reads hself
  | statements => exact statements_reads hself
  | item => exact item_reads hself

theorem readers_read (depth : Nat) : (readers depth).Read w := by
  induction depth with
  | zero =>
    intro n _
    rw [readers]
    mvcgen
    all_goals simp_all
  | succ depth ih => exact fun n hn ↦ rule_reads ih hn

theorem closed_reads {α : Type} [Yield α] {r : Readers → Reader α}
    (h : ∀ {self : Readers}, self.Read w → Reads w (r self)) : Reads w (closed r) := by
  rw [reads_iff]
  exact fun c a c' hc hr ↦ reads_iff.1 (h (readers_read _)) c a c' hc hr

end Grammar

/-- The macros in what is read from a forest have fewer tokens as arguments than the forest. -/
theorem Reader.within_of_run {α : Type} [Yield α] {r : Reader α} {trees : List TokenTree}
    (h : Reads (TokenTree.sizes trees) r) {a : α} (hr : r.run trees = .ok a) :
    Within (TokenTree.sizes trees) a := by
  unfold Reader.run at hr
  dsimp only at hr
  split at hr
  · cases hr
  · next hread =>
    split at hr
    · cases hr
    · obtain rfl := Except.ok.inj hr
      exact (reads_iff.1 h _ _ _ (le_refl _) hread).2

namespace Node

/-- The macros in a tree are smaller than it is. -/
theorem within_of_size_le {w : Nat} {n : Node} (h : n.size ≤ w) : n.Within w := by
  have hall : ∀ cs : List Node, (∀ c ∈ cs, c.size ≤ w → c.Within w) → sizes cs ≤ w →
      AllWithin w cs := by
    intro cs hcs hsizes
    induction cs with
    | nil => trivial
    | cons c cs ih =>
      rw [sizes] at hsizes
      exact ⟨hcs c List.mem_cons_self (by omega),
        ih (fun c' hc' ↦ hcs c' (List.mem_cons_of_mem _ hc')) (by omega)⟩
  induction n using Node.induction with
  | token => trivial
  | unread => trivial
  | group d cs ih =>
    rw [size] at h
    exact hall cs ih (by omega)
  | node k cs ih =>
    rw [size] at h
    refine ⟨?_, hall cs ih (by omega)⟩
    rintro path bang d ts - rfl
    simp only [sizes, size] at h
    omega

theorem Within.mono {w w' : Nat} (hw : w ≤ w') {n : Node} (h : n.Within w) : n.Within w' := by
  induction n using Node.induction with
  | token => trivial
  | unread => trivial
  | group d cs ih =>
    rw [Within, allWithin_iff] at h ⊢
    exact fun c hc ↦ ih c hc (h c hc)
  | node k cs ih =>
    rw [Within, allWithin_iff] at h ⊢
    exact ⟨fun path bang d ts hk hcs ↦ (h.1 path bang d ts hk hcs).trans_le hw,
      fun c hc ↦ ih c hc (h.2 c hc)⟩

end Node

end RenderTrace.Syntax
