import Mathlib.Data.List.Nodup
import Mathlib.Data.List.Perm.Subperm
import SourceConventions.Files.Resolve
import SourceConventions.Proofs.Files.Writing

/-!
# Real locations of what is there

A path that leads somewhere has a real location, and that is where it leads. A link that is followed
takes more links than its target does, so that none is met again on its own way.
-/

namespace SourceConventions.FileTree

open Entry

/-- That names lead from a location to another one over a number of links. -/
inductive Leads (top : Entry) : Nat → Location → List String → Location → Prop
  | nil (loc : Location) : Leads top 0 loc [] loc
  | point {n : Nat} {loc l : Location} {name : String} {names : List String} (hname : name = ".")
    (h : Leads top n loc names l) : Leads top n loc (name :: names) l
  | up {n : Nat} {loc l : Location} {name : String} {names : List String} (hname : name = "..")
    (h : Leads top n loc.dropLast names l) : Leads top n loc (name :: names) l
  | enter {n : Nat} {loc l : Location} {name : String} {names : List String} (hpoint : name ≠ ".")
    (hpoints : name ≠ "..") (hlink : ∀ target, top.at? (loc ++ [name]) ≠ some (.link target))
    (h : Leads top n (loc ++ [name]) names l) : Leads top n loc (name :: names) l
  | link {n m : Nat} {loc mid l : Location} {name target : String} {names : List String}
    (hpoint : name ≠ ".") (hpoints : name ≠ "..")
    (hlink : top.at? (loc ++ [name]) = some (.link target))
    (htarget : Leads top n (if isAbsolute target then [] else loc) (steps target) mid)
    (h : Leads top m mid names l) : Leads top (n + m + 1) loc (name :: names) l

variable {top : Entry} {loc mid l : Location} {name target : String} {names others : List String}
  {n m : Nat}

namespace Leads

theorem exists_of_append (h : Leads top n loc (names ++ others) l) :
    ∃ k k' mid, n = k + k' ∧ Leads top k loc names mid ∧ Leads top k' mid others l := by
  induction names generalizing n loc with
  | nil => exact ⟨0, n, loc, (Nat.zero_add n).symm, .nil loc, h⟩
  | cons name rest ih =>
    cases h with
    | point hname h =>
      obtain ⟨k, k', mid, hn, hfront, hback⟩ := ih h
      exact ⟨k, k', mid, hn, .point hname hfront, hback⟩
    | up hname h =>
      obtain ⟨k, k', mid, hn, hfront, hback⟩ := ih h
      exact ⟨k, k', mid, hn, .up hname hfront, hback⟩
    | enter hpoint hpoints hlink h =>
      obtain ⟨k, k', mid, hn, hfront, hback⟩ := ih h
      exact ⟨k, k', mid, hn, .enter hpoint hpoints hlink hfront, hback⟩
    | link hpoint hpoints hlink htarget h =>
      obtain ⟨k, k', mid, rfl, hfront, hback⟩ := ih h
      exact ⟨_, k', mid, by omega, .link hpoint hpoints hlink htarget hfront, hback⟩

theorem unique (h : Leads top n loc names l) (h' : Leads top m loc names mid) : n = m ∧ l = mid := by
  induction h generalizing m mid with
  | nil loc => cases h'; exact ⟨rfl, rfl⟩
  | point hname _ ih =>
    cases h' with
    | point _ h' => exact ih h'
    | up hname' => exact absurd (hname.symm.trans hname') (by decide)
    | enter hpoint | link hpoint => exact absurd hname hpoint
  | up hname _ ih =>
    cases h' with
    | point hname' => exact absurd (hname.symm.trans hname') (by decide)
    | up _ h' => exact ih h'
    | enter _ hpoints | link _ hpoints => exact absurd hname hpoints
  | enter hpoint hpoints hlink _ ih =>
    cases h' with
    | point hname => exact absurd hname hpoint
    | up hname => exact absurd hname hpoints
    | enter _ _ _ h' => exact ih h'
    | link _ _ hlink' => exact absurd hlink' (hlink _)
  | link hpoint hpoints hlink _ _ ihtarget ih =>
    cases h' with
    | point hname => exact absurd hname hpoint
    | up hname => exact absurd hname hpoints
    | enter _ _ hlink' => exact absurd hlink (hlink' _)
    | link _ _ hlink' htarget' h' =>
      rw [hlink] at hlink'
      cases hlink'
      obtain ⟨rfl, rfl⟩ := ihtarget htarget'
      obtain ⟨rfl, rfl⟩ := ih h'
      exact ⟨rfl, rfl⟩

end Leads

/-- What is found at the end of a way is where the names lead. -/
theorem leads_of_follow {links : Nat} {e : Entry}
    (h : follow top links loc names = .ok (l, some e)) : ∃ n, Leads top n loc names l := by
  fun_induction follow top links loc names with
  | case1 =>
    obtain ⟨rfl, -⟩ := Prod.mk.inj (Except.ok.inj h)
    exact ⟨0, .nil _⟩
  | case2 links loc rest entries hloc ih =>
    obtain ⟨n, hn⟩ := ih h
    exact ⟨n, .point rfl hn⟩
  | case3 links loc rest entries hloc _ ih =>
    obtain ⟨n, hn⟩ := ih h
    exact ⟨n, .up rfl hn⟩
  | case5 => cases h
  | case8 loc name rest entries hloc hpoint hpoints _ target hname links ih =>
    simp only [dite_eq_ite] at ih
    obtain ⟨n, hn⟩ := ih h
    obtain ⟨k, k', mid, -, htarget, hrest⟩ := hn.exists_of_append
    exact ⟨_, .link hpoint hpoints ((at?_snoc hloc name).trans hname) htarget hrest⟩
  | case9 links loc name rest entries hloc hpoint hpoints _ inner hinner hname ih =>
    obtain ⟨n, hn⟩ := ih h
    refine ⟨n, .enter hpoint hpoints (fun target htarget => ?_) hn⟩
    rw [at?_snoc hloc, hname] at htarget
    exact hinner target (Option.some.inj htarget)
  | _ => cases h

/-! ### Counting links -/

mutual

/-- Where the links of an entry are. -/
def linkLocations : Entry → List Location
  | .file _ => []
  | .link _ => [[]]
  | .directory entries => linkLocationsAmong entries

def linkLocationsAmong : List (String × Entry) → List Location
  | [] => []
  | (name, e) :: rest => (linkLocations e).map (name :: ·) ++ linkLocationsAmong rest

end

mutual

theorem length_linkLocations : ∀ e : Entry, (linkLocations e).length = e.linkCount
  | .file _ => rfl
  | .link _ => rfl
  | .directory entries => length_linkLocationsAmong entries

theorem length_linkLocationsAmong : ∀ entries : List (String × Entry),
    (linkLocationsAmong entries).length = linkCounts entries
  | [] => rfl
  | (_, e) :: rest => by
    rw [linkLocationsAmong, List.length_append, List.length_map, length_linkLocations e,
      length_linkLocationsAmong rest, linkCounts]

end

theorem mem_linkLocations {e : Entry} (h : e.at? loc = some (.link target)) : loc ∈ linkLocations e := by
  induction loc generalizing e with
  | nil =>
    cases Option.some.inj h
    exact List.mem_singleton_self _
  | cons name rest ih =>
    obtain ⟨inner, hinner, hrest⟩ := Option.bind_eq_some_iff.mp h
    cases e with
    | file octets | link target => cases hinner
    | directory entries =>
      rw [linkLocations]
      induction entries with
      | nil => cases hinner
      | cons first others ihothers =>
        obtain ⟨other, e⟩ := first
        rw [linkLocationsAmong, List.mem_append]
        rw [child?, lookup_cons_ite] at hinner
        split at hinner
        case isTrue heq =>
          cases hinner
          exact .inl (heq ▸ List.mem_map_of_mem (ih hrest))
        case isFalse =>
          refine .inr (ihothers ?_ hinner)
          rw [Entry.at?, child?, hinner]
          exact hrest

/-- Different links are no more than all. -/
theorem length_le_linkCount {locs : List Location} (hnodup : locs.Nodup)
    (hlinks : ∀ loc ∈ locs, ∃ target, top.at? loc = some (.link target)) :
    locs.length ≤ top.linkCount := by
  rw [← length_linkLocations]
  refine (List.subperm_of_subset hnodup fun loc hloc => ?_).length_le
  obtain ⟨target, htarget⟩ := hlinks loc hloc
  exact mem_linkLocations htarget

/-! ### Real locations -/

/-- That links are being followed on the way of which names are a part: the names take fewer links
than any of them. -/
structure Following (top : Entry) (n depth : Nat) (active : List Location) : Prop where
  nodup : active.Nodup
  links : ∀ p ∈ active, ∃ target, top.at? p = some (.link target)
  fewer : ∀ loc name k l, loc ++ [name] ∈ active → Leads top k loc [name] l → n < k
  depth : depth + active.length = top.linkCount + 1

theorem Following.less {depth : Nat} {active : List Location} (h : Following top n depth active)
    (hm : m ≤ n) : Following top m depth active :=
  { h with fewer := fun loc name k l hactive hleads =>
      Nat.lt_of_le_of_lt hm (h.fewer loc name k l hactive hleads) }

/-- Where names lead is their real location. -/
theorem realNames_of_leads {depth : Nat} {active : List Location} (h : Leads top n loc names l)
    (hactive : Following top n depth active) : realNames top depth active loc names = .ok l := by
  induction h generalizing depth active with
  | nil loc => rw [realNames]
  | point hname _ ih => rw [realNames, if_pos hname, ih hactive]
  | up hname _ ih => rw [realNames, if_neg (by rw [hname]; decide), if_pos hname, ih hactive]
  | enter hpoint hpoints hlink _ ih =>
    rw [realNames, if_neg hpoint, if_neg hpoints]
    split
    next target heq => exact absurd heq (hlink target)
    next => exact ih hactive
  | @link n m loc mid l name target names hpoint hpoints hlink htarget hrest ihtarget ih =>
    have hself : Leads top (n + 0 + 1) loc [name] mid := .link hpoint hpoints hlink htarget (.nil mid)
    -- The link is not among those that are being followed: they take more links than it does.
    have hnew : loc ++ [name] ∉ active := fun hmem => by
      have hfewer := hactive.fewer loc name _ mid hmem hself
      omega
    have hnodup : ((loc ++ [name]) :: active).Nodup := List.nodup_cons.mpr ⟨hnew, hactive.nodup⟩
    have hlinks : ∀ p ∈ (loc ++ [name]) :: active, ∃ target, top.at? p = some (.link target) :=
      List.forall_mem_cons.mpr ⟨⟨target, hlink⟩, hactive.links⟩
    have hdepth := hactive.depth
    have hcount := length_le_linkCount hnodup hlinks
    rw [List.length_cons] at hcount
    obtain ⟨inner, rfl⟩ : ∃ inner, depth = inner + 1 := ⟨depth - 1, by omega⟩
    have hinner : Following top n inner ((loc ++ [name]) :: active) := by
      refine ⟨hnodup, hlinks, fun loc' name' k l' hmem hleads => ?_, by rw [List.length_cons]; omega⟩
      rcases List.mem_cons.mp hmem with heq | hmem
      · obtain ⟨rfl, hname⟩ := List.append_inj' heq rfl
        cases hname
        have hk := (hself.unique hleads).1
        omega
      · have hfewer := hactive.fewer loc' name' k l' hmem hleads
        omega
    rw [realNames, if_neg hpoint, if_neg hpoints, hlink]
    simp only
    rw [if_neg (by simpa using hnew), ihtarget hinner]
    exact ih (hactive.less (by omega))

variable {t : FileTree} {path : String} {e : Entry}

/-- A path that leads somewhere has the real location to which it leads. -/
theorem realLocation_of_find (h : t.find path = .ok (loc, e)) : t.realLocation path = .ok loc := by
  have htrace : t.trace path = .ok (loc, some e) := by
    rw [find] at h
    cases htrace : t.trace path with
    | error f => rw [htrace] at h; cases h
    | ok answer =>
      obtain ⟨there, e?⟩ := answer
      rw [htrace] at h
      cases e? with
      | none => cases h
      | some inner => cases h; rfl
  rw [trace] at htrace
  split at htrace
  · cases htrace
  · split at htrace
    · cases htrace
    next hnull =>
      split at htrace
      · cases htrace
      · obtain ⟨n, hleads⟩ := leads_of_follow htrace
        have hstart : Following t.top n (t.top.linkCount + 1) [] :=
          ⟨.nil, fun _ hp => absurd hp List.not_mem_nil,
            fun _ _ _ _ hp => absurd hp List.not_mem_nil, rfl⟩
        rw [realLocation, if_neg hnull]
        dsimp only
        rw [realNames_of_leads hleads hstart]
        rfl

end SourceConventions.FileTree
