import Mathlib.Data.List.Infix
import Mathlib.Data.List.Nodup
import SourceConventions.Syntax.Place

/-!
# Spots in a tree

Nodes that look alike may stand in a tree more than once, so a place does not tell which of them it
is about. A spot does. It has the way from the root to its node: the number of the child to which
each step goes, the last step first. No two spots of a tree have the same way, and the scopes of
what stands at a spot are at spots of the same tree.
-/

namespace SourceConventions.Syntax

structure Spot where
  way : List Nat
  place : Place
  deriving Repr

mutual

def Expr.spots (way : List Nat) (above : List Node) : Expr → List Spot
  | .mk r k p c =>
    ⟨way, .expr (.mk r k p c), above⟩ :: Expr.spotsOfAll way 0 (.expr (.mk r k p c) :: above) c

/-- The spots of expressions that are children of one node, counted from a number on. -/
def Expr.spotsOfAll (way : List Nat) (first : Nat) (above : List Node) : List Expr → List Spot
  | [] => []
  | e :: rest => Expr.spots (first :: way) above e ++ Expr.spotsOfAll way (first + 1) above rest

end

mutual

/-- The spots of a statement; its expressions are counted before the statements in its blocks. -/
def Stmt.spots (way : List Nat) (above : List Node) : Stmt → List Spot
  | .mk r k p e b =>
    let self : Node := .stmt (.mk r k p e b)
    ⟨way, self, above⟩ ::
      (Expr.spotsOfAll way 0 (self :: above) e ++ Stmt.spotsOfAll way e.length (self :: above) b)

def Stmt.spotsOfAll (way : List Nat) (first : Nat) (above : List Node) : List Stmt → List Spot
  | [] => []
  | s :: rest => Stmt.spots (first :: way) above s ++ Stmt.spotsOfAll way (first + 1) above rest

end

/-! ### Spots and places -/

mutual

theorem Expr.map_place_spots (way : List Nat) (above : List Node) :
    (e : Expr) → (e.spots way above).map Spot.place = e.places above
  | .mk _ _ _ c => congrArg _ (Expr.map_place_spotsOfAll way 0 _ c)

theorem Expr.map_place_spotsOfAll (way : List Nat) (first : Nat) (above : List Node) :
    (l : List Expr) → (Expr.spotsOfAll way first above l).map Spot.place
      = Expr.placesOfAll above l
  | [] => rfl
  | e :: rest => by
    rw [spotsOfAll, List.map_append, Expr.map_place_spots, Expr.map_place_spotsOfAll, placesOfAll]

end

mutual

theorem Stmt.map_place_spots (way : List Nat) (above : List Node) :
    (s : Stmt) → (s.spots way above).map Spot.place = s.places above
  | .mk r k p e b => by
    rw [spots, List.map_cons, List.map_append, Expr.map_place_spotsOfAll,
      Stmt.map_place_spotsOfAll, places]

theorem Stmt.map_place_spotsOfAll (way : List Nat) (first : Nat) (above : List Node) :
    (l : List Stmt) → (Stmt.spotsOfAll way first above l).map Spot.place
      = Stmt.placesOfAll above l
  | [] => rfl
  | s :: rest => by
    rw [spotsOfAll, List.map_append, Stmt.map_place_spots, Stmt.map_place_spotsOfAll, placesOfAll]

end

/-! ### Different spots have different ways -/

/-- Ways to what stands below the children of one node, with the numbers of these children. -/
def LeadsBelow (way : List Nat) (first count : Nat) (t : Spot) : Prop :=
  ∃ i, first ≤ i ∧ i < first + count ∧ (i :: way) <:+ t.way

namespace LeadsBelow

variable {way : List Nat} {first count : Nat} {t t' : Spot}

theorem way_ne (h : LeadsBelow way first count t) : t.way ≠ way := by
  obtain ⟨i, -, -, hway⟩ := h
  intro heq
  have hlength := hway.length_le
  rw [heq, List.length_cons] at hlength
  omega

/-- Ways that part at a node do not meet again. -/
theorem way_ne_way {first' count' : Nat} (h : LeadsBelow way first count t)
    (h' : LeadsBelow way first' count' t') (hle : first + count ≤ first') : t.way ≠ t'.way := by
  obtain ⟨i, -, hi, hway⟩ := h
  obtain ⟨j, hj, -, hway'⟩ := h'
  intro heq
  rw [heq] at hway
  have hsuffix := List.suffix_of_suffix_length_le hway hway' (by simp)
  have hij : i = j := (List.cons.inj (hsuffix.eq_of_length (by simp))).1
  omega

theorem mono {first' count' : Nat} (h : LeadsBelow way first count t) (hfirst : first' ≤ first)
    (hlast : first + count ≤ first' + count') : LeadsBelow way first' count' t := by
  obtain ⟨i, hle, hlt, hway⟩ := h
  exact ⟨i, by omega, by omega, hway⟩

/-- What lies at or below a child lies below its parent. -/
theorem of_suffix (h : (first :: way) <:+ t.way) : LeadsBelow way first 1 t :=
  ⟨first, le_refl first, Nat.lt_succ_self first, h⟩

theorem suffix (h : LeadsBelow way first count t) : way <:+ t.way := by
  obtain ⟨i, -, -, hway⟩ := h
  exact (List.suffix_cons i way).trans hway

end LeadsBelow

mutual

theorem Expr.way_suffix {way : List Nat} {above : List Node} {t : Spot} :
    (e : Expr) → t ∈ e.spots way above → way <:+ t.way
  | .mk r k p c, ht => by
    rcases List.mem_cons.mp ht with rfl | ht
    · exact List.suffix_refl way
    · exact (Expr.leadsBelow c ht).suffix

theorem Expr.leadsBelow {way : List Nat} {first : Nat} {above : List Node} {t : Spot} :
    (l : List Expr) → t ∈ Expr.spotsOfAll way first above l → LeadsBelow way first l.length t
  | e :: rest, ht => by
    rcases List.mem_append.mp ht with ht | ht
    · exact (LeadsBelow.of_suffix (Expr.way_suffix e ht)).mono (le_refl first) (by simp)
    · exact (Expr.leadsBelow rest ht).mono (Nat.le_succ first) (by rw [List.length_cons]; omega)

end

mutual

theorem Stmt.way_suffix {way : List Nat} {above : List Node} {t : Spot} :
    (s : Stmt) → t ∈ s.spots way above → way <:+ t.way
  | .mk r k p e b, ht => by
    rcases List.mem_cons.mp ht with rfl | ht
    · exact List.suffix_refl way
    · rcases List.mem_append.mp ht with ht | ht
      · exact (Expr.leadsBelow e ht).suffix
      · exact (Stmt.leadsBelow b ht).suffix

theorem Stmt.leadsBelow {way : List Nat} {first : Nat} {above : List Node} {t : Spot} :
    (l : List Stmt) → t ∈ Stmt.spotsOfAll way first above l → LeadsBelow way first l.length t
  | s :: rest, ht => by
    rcases List.mem_append.mp ht with ht | ht
    · exact (LeadsBelow.of_suffix (Stmt.way_suffix s ht)).mono (le_refl first) (by simp)
    · exact (Stmt.leadsBelow rest ht).mono (Nat.le_succ first) (by rw [List.length_cons]; omega)

end

/-- Ways do not repeat in two rows of spots if they do not in either and the rows have none in
common. -/
private theorem nodup_ways_append {l l' : List Spot} (hl : (l.map Spot.way).Nodup)
    (hl' : (l'.map Spot.way).Nodup) (hne : ∀ t ∈ l, ∀ t' ∈ l', t.way ≠ t'.way) :
    ((l ++ l').map Spot.way).Nodup := by
  rw [List.map_append]
  refine List.Nodup.append hl hl' fun way hway hway' => ?_
  obtain ⟨t, ht, rfl⟩ := List.mem_map.mp hway
  obtain ⟨t', ht', heq⟩ := List.mem_map.mp hway'
  exact hne t ht t' ht' heq.symm

/-- The way to a node does not repeat among the ways to what is below it. -/
private theorem nodup_ways_cons {t : Spot} {l : List Spot} {count : Nat}
    (hl : (l.map Spot.way).Nodup) (hbelow : ∀ t' ∈ l, LeadsBelow t.way 0 count t') :
    ((t :: l).map Spot.way).Nodup := by
  rw [List.map_cons, List.nodup_cons]
  refine ⟨fun hmem => ?_, hl⟩
  obtain ⟨t', ht', heq⟩ := List.mem_map.mp hmem
  exact (hbelow t' ht').way_ne heq

mutual

theorem Expr.nodup_ways (way : List Nat) (above : List Node) :
    (e : Expr) → ((e.spots way above).map Spot.way).Nodup
  | .mk _ _ _ c => nodup_ways_cons (Expr.nodup_ways_all way 0 _ c) fun _ => Expr.leadsBelow c

theorem Expr.nodup_ways_all (way : List Nat) (first : Nat) (above : List Node) :
    (l : List Expr) → ((Expr.spotsOfAll way first above l).map Spot.way).Nodup
  | [] => List.nodup_nil
  | e :: rest => by
    refine nodup_ways_append (Expr.nodup_ways _ above e) (Expr.nodup_ways_all way _ above rest) ?_
    intro t ht t' ht'
    exact (LeadsBelow.of_suffix (Expr.way_suffix e ht)).way_ne_way (Expr.leadsBelow rest ht')
      (le_refl _)

end

mutual

theorem Stmt.nodup_ways (way : List Nat) (above : List Node) :
    (s : Stmt) → ((s.spots way above).map Spot.way).Nodup
  | .mk r k p e b => by
    let above' : List Node := .stmt (.mk r k p e b) :: above
    have hparts := Expr.nodup_ways_all way 0 above' e
    have hbody := Stmt.nodup_ways_all way e.length above' b
    have hbelow : ∀ t ∈ Expr.spotsOfAll way 0 above' e ++ Stmt.spotsOfAll way e.length above' b,
        LeadsBelow way 0 (e.length + b.length) t := fun t ht => by
      rcases List.mem_append.mp ht with ht | ht
      · exact (Expr.leadsBelow e ht).mono (le_refl 0) (by omega)
      · exact (Stmt.leadsBelow b ht).mono (Nat.zero_le _) (by omega)
    refine nodup_ways_cons (nodup_ways_append hparts hbody fun t ht t' ht' => ?_) hbelow
    exact (Expr.leadsBelow e ht).way_ne_way (Stmt.leadsBelow b ht') (by omega)

theorem Stmt.nodup_ways_all (way : List Nat) (first : Nat) (above : List Node) :
    (l : List Stmt) → ((Stmt.spotsOfAll way first above l).map Spot.way).Nodup
  | [] => List.nodup_nil
  | s :: rest => by
    refine nodup_ways_append (Stmt.nodup_ways _ above s) (Stmt.nodup_ways_all way _ above rest) ?_
    intro t ht t' ht'
    exact (LeadsBelow.of_suffix (Stmt.way_suffix s ht)).way_ne_way (Stmt.leadsBelow rest ht')
      (le_refl _)

end

/-- A way leads to one spot of a tree. -/
theorem Stmt.spot_eq_of_way_eq {tree : Stmt} {t t' : Spot} (ht : t ∈ tree.spots [] [])
    (ht' : t' ∈ tree.spots [] []) (h : t.way = t'.way) : t = t' :=
  List.inj_on_of_nodup_map (tree.nodup_ways [] []) ht ht' h

/-! ### The spots above a spot -/

namespace Spot

/-- The spot of a node above a spot; its place says which node it is. -/
def upTo (t : Spot) (p : Place) : Spot :=
  ⟨t.way.drop (t.place.above.length - p.above.length), p⟩

/-- The node above a spot is at one of some spots, one step back on the way. -/
def HangsFrom (t : Spot) (l : List Spot) : Prop :=
  ∃ i way n above, t.way = i :: way ∧ t.place.above = n :: above ∧ ⟨way, n, above⟩ ∈ l

theorem HangsFrom.mono {t : Spot} {l l' : List Spot} (h : t.HangsFrom l) (hl : l ⊆ l') :
    t.HangsFrom l' := by
  obtain ⟨i, way, n, above, hway, habove, hmem⟩ := h
  exact ⟨i, way, n, above, hway, habove, hl hmem⟩

end Spot

mutual

theorem Expr.hangsFrom_spots {way : List Nat} {above : List Node} {t : Spot} :
    (e : Expr) → t ∈ e.spots way above →
      t = ⟨way, .expr e, above⟩ ∨ t.HangsFrom (e.spots way above)
  | .mk _ _ _ c, ht => by
    rcases List.mem_cons.mp ht with rfl | ht
    · exact .inl rfl
    · exact .inr (Expr.hangsFrom_spotsOfAll c ht)

theorem Expr.hangsFrom_spotsOfAll {way : List Nat} {first : Nat} {n : Node} {above : List Node}
    {t : Spot} : (l : List Expr) → t ∈ Expr.spotsOfAll way first (n :: above) l →
      t.HangsFrom (⟨way, n, above⟩ :: Expr.spotsOfAll way first (n :: above) l)
  | e :: rest, ht => by
    rcases List.mem_append.mp ht with ht | ht
    · rcases Expr.hangsFrom_spots e ht with rfl | h
      · exact ⟨first, way, n, above, rfl, rfl, List.mem_cons_self⟩
      · exact h.mono (List.Subset.trans (List.subset_append_left _ _) (List.subset_cons_self _ _))
    · exact (Expr.hangsFrom_spotsOfAll rest ht).mono
        (List.cons_subset_cons _ (List.subset_append_right _ _))

end

mutual

theorem Stmt.hangsFrom_spots {way : List Nat} {above : List Node} {t : Spot} :
    (s : Stmt) → t ∈ s.spots way above →
      t = ⟨way, .stmt s, above⟩ ∨ t.HangsFrom (s.spots way above)
  | .mk _ _ _ e b, ht => by
    rcases List.mem_cons.mp ht with rfl | ht
    · exact .inl rfl
    · rcases List.mem_append.mp ht with ht | ht
      · exact .inr ((Expr.hangsFrom_spotsOfAll e ht).mono
          (List.cons_subset_cons _ (List.subset_append_left _ _)))
      · exact .inr ((Stmt.hangsFrom_spotsOfAll b ht).mono
          (List.cons_subset_cons _ (List.subset_append_right _ _)))

theorem Stmt.hangsFrom_spotsOfAll {way : List Nat} {first : Nat} {n : Node} {above : List Node}
    {t : Spot} : (l : List Stmt) → t ∈ Stmt.spotsOfAll way first (n :: above) l →
      t.HangsFrom (⟨way, n, above⟩ :: Stmt.spotsOfAll way first (n :: above) l)
  | s :: rest, ht => by
    rcases List.mem_append.mp ht with ht | ht
    · rcases Stmt.hangsFrom_spots s ht with rfl | h
      · exact ⟨first, way, n, above, rfl, rfl, List.mem_cons_self⟩
      · exact h.mono (List.Subset.trans (List.subset_append_left _ _) (List.subset_cons_self _ _))
    · exact (Stmt.hangsFrom_spotsOfAll rest ht).mono
        (List.cons_subset_cons _ (List.subset_append_right _ _))

end

/-- The nodes above a spot are at spots of the same tree. -/
theorem Stmt.upTo_mem_spots {tree : Stmt} {n : Node} {above nodes : List Node} {t : Spot}
    (ht : t ∈ tree.spots [] []) (hnodes : t.place.above = nodes) (h : (n :: above) <:+ nodes) :
    t.upTo ⟨n, above⟩ ∈ tree.spots [] [] := by
  induction nodes generalizing t with
  | nil => exact absurd (List.suffix_nil.mp h) (List.cons_ne_nil n above)
  | cons m rest ih =>
    rcases Stmt.hangsFrom_spots tree ht with rfl | ⟨i, way, m', rest', hway, habove, hparent⟩
    · cases hnodes
    · obtain ⟨rfl, rfl⟩ := List.cons.inj (hnodes.symm.trans habove)
      rcases List.suffix_cons_iff.mp h with heq | h
      · obtain ⟨rfl, rfl⟩ := List.cons.inj heq
        rwa [Spot.upTo, hway, hnodes, List.length_cons, Nat.add_sub_cancel_left, List.drop_one,
          List.tail_cons]
      · have hlength : above.length ≤ rest.length :=
          ((List.suffix_cons n above).trans h).length_le
        have hsame : t.upTo ⟨n, above⟩ = Spot.upTo ⟨way, m, rest⟩ ⟨n, above⟩ := by
          rw [Spot.upTo, hway, hnodes, List.length_cons, Nat.succ_sub hlength, List.drop_succ_cons]
          rfl
        rw [hsame]
        exact ih hparent rfl h

/-! ### Scopes -/

/-- A scope is one of the nodes among which it is sought, with the nodes above it. -/
theorem suffix_of_mem_scopesAmong {nodes : List Node} {p : Place} (h : p ∈ scopesAmong nodes) :
    (p.node :: p.above) <:+ nodes := by
  fun_induction scopesAmong nodes with
  | case1 => cases h
  | case2 n m o rest _ ih | case6 n rest _ _ ih =>
    rcases List.mem_cons.mp h with rfl | h
    · exact List.suffix_refl _
    · exact (ih h).trans (List.suffix_cons n _)
  | case3 n m o rest _ _ ih =>
    exact (ih h).trans ((List.suffix_cons m _).trans (List.suffix_cons n _))
  | case4 n m o rest _ _ _ ih =>
    exact (ih h).trans
      ((List.suffix_cons o _).trans ((List.suffix_cons m _).trans (List.suffix_cons n _)))
  | case5 n m o rest _ _ _ ih | case7 n rest _ _ ih => exact (ih h).trans (List.suffix_cons n _)

theorem isSome_scopeKind?_of_mem_scopesAmong {nodes : List Node} {p : Place}
    (h : p ∈ scopesAmong nodes) : p.node.scopeKind?.isSome = true := by
  fun_induction scopesAmong nodes with
  | case1 => cases h
  | case2 n m o rest hscope ih | case6 n rest _ hscope ih =>
    rcases List.mem_cons.mp h with rfl | h
    · exact hscope
    · exact ih h
  | case3 _ _ _ _ _ _ ih | case4 _ _ _ _ _ _ _ ih | case5 _ _ _ _ _ _ _ ih | case7 _ _ _ _ ih =>
    exact ih h

/-- Behind the innermost scope are the scopes of that scope. -/
theorem eq_scopes_of_scopesAmong_eq_cons {nodes : List Node} {p : Place} {outer : List Place}
    (h : scopesAmong nodes = p :: outer) : outer = p.scopes := by
  fun_induction scopesAmong nodes with
  | case1 => cases h
  | case2 | case6 =>
    obtain ⟨rfl, rfl⟩ := List.cons.inj h
    rfl
  | case3 _ _ _ _ _ _ ih | case4 _ _ _ _ _ _ _ ih | case5 _ _ _ _ _ _ _ ih | case7 _ _ _ _ ih =>
    exact ih h

/-- The spot of the innermost scope. -/
def Spot.scope? (t : Spot) : Option Spot := t.place.scopes.head?.map t.upTo

/-- The scope of what stands at a spot of a tree is at a spot of the tree. -/
theorem Stmt.scope?_mem_spots {tree : Stmt} {t scope : Spot} (ht : t ∈ tree.spots [] [])
    (h : t.scope? = some scope) : scope ∈ tree.spots [] [] := by
  obtain ⟨p, hp, rfl⟩ := Option.map_eq_some_iff.mp h
  exact tree.upTo_mem_spots ht rfl (suffix_of_mem_scopesAmong (List.mem_of_mem_head? hp))

end SourceConventions.Syntax
