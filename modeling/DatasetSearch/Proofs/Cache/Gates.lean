import Mathlib.Data.List.Nodup
import Mathlib.Logic.Function.Basic
import DatasetSearch.Proofs.Cache.Stages

/-!
# Gates as objects

A gate is an object that several calls may refer to.  A call takes the gate that is in flight under
its key, or puts a new one there; a gate lets the calls that took it pass one at a time, in the
order in which they came.  A call that leaves takes the key out of flight if nobody else refers to
its gate.  As long as every reference is to a gate in flight, this comes to one line of calls for
each key, whatever the gates are.
-/

namespace DatasetSearch.Cache

structure Gates where
  /-- The gate in flight under a key. -/
  inFlight : List (String × Nat)
  /-- The calls that hold a reference to a gate, in the order in which they came: the gate and the
  index of the call. -/
  refs : List (Nat × Nat)
  /-- The next new gate. -/
  next : Nat
deriving Repr

namespace Gates

/-- The calls that came to a gate and have not left it. -/
def line (g : Gates) (gate : Nat) : List Nat := (g.refs.filter (·.1 = gate)).map Prod.snd

def gate? (g : Gates) (index : Nat) : Option Nat := (g.refs.find? (·.2 = index)).map Prod.fst

/-- Whether a gate lets the call pass that came to it. -/
def isFirst (g : Gates) (index : Nat) : Bool :=
  (g.gate? index).any fun gate => (g.line gate).head? = some index

/-- The number of references to a gate, that of the key in flight included. -/
def count (g : Gates) (gate : Nat) : Nat :=
  (g.inFlight.map Prod.snd).count gate + (g.refs.map Prod.fst).count gate

/-- Whether a call holds the last reference to its gate, but for that of the key in flight. -/
def isLast (g : Gates) (index : Nat) : Bool := (g.gate? index).any fun gate => g.count gate ≤ 2

/-- A call takes the gate in flight under a key, or a new one. -/
def join (g : Gates) (key : String) (index : Nat) : Gates :=
  match g.inFlight.lookup key with
  | some gate => { g with refs := g.refs ++ [(gate, index)] }
  | none => ⟨(key, g.next) :: g.inFlight, g.refs ++ [(g.next, index)], g.next + 1⟩

/-- A call lets go of its gate. -/
def drop (g : Gates) (index : Nat) : Gates := { g with refs := g.refs.filter (·.2 ≠ index) }

/-- A call leaves its gate, and takes the key out of flight if its reference is the last. -/
def leave (g : Gates) (key : String) (index : Nat) : Gates :=
  if g.isLast index then { g with inFlight := g.inFlight.filter (·.1 ≠ key) }.drop index
  else g.drop index

/-- Gates that nobody refers to, one under each of some keys. -/
def idle (keys : List String) : Gates := ⟨keys.zipIdx, [], keys.length⟩

/-- The calls at the gate in flight under a key. -/
def lineOf (g : Gates) (key : String) : List Nat :=
  match g.inFlight.lookup key with
  | some gate => g.line gate
  | none => []

/-- Gates in flight are different objects, no call refers to two gates, and every reference is to a
gate in flight. -/
structure IsSound (g : Gates) : Prop where
  distinct : (g.inFlight.map Prod.snd).Nodup
  bounded : ∀ p ∈ g.inFlight, p.2 < g.next
  single : (g.refs.map Prod.snd).Nodup
  current : ∀ p ∈ g.refs, ∃ key, g.inFlight.lookup key = some p.1

/-! ### The line of a key -/

variable {g : Gates} {key other : String} {index : Nat}

theorem mem_line {gate : Nat} : index ∈ g.line gate ↔ (gate, index) ∈ g.refs := by
  simp [line]

theorem nodup_line (hg : g.IsSound) (gate : Nat) : (g.line gate).Nodup :=
  hg.single.sublist (List.filter_sublist.map Prod.snd)

theorem nodup_lineOf (hg : g.IsSound) (key : String) : (g.lineOf key).Nodup := by
  unfold lineOf
  split
  · exact nodup_line hg _
  · exact List.nodup_nil

theorem exists_gate_of_mem (h : index ∈ g.lineOf key) :
    ∃ gate, g.inFlight.lookup key = some gate ∧ (gate, index) ∈ g.refs := by
  unfold lineOf at h
  split at h
  · next gate hgate => exact ⟨gate, hgate, mem_line.mp h⟩
  · cases h

theorem mem_lineOf_of_mem_refs {gate : Nat} (h : g.inFlight.lookup key = some gate)
    (hmem : (gate, index) ∈ g.refs) : index ∈ g.lineOf key := by
  unfold lineOf
  rw [h]
  exact mem_line.mpr hmem

theorem lineOf_eq {gate : Nat} (h : g.inFlight.lookup key = some gate) :
    g.lineOf key = g.line gate := by
  unfold lineOf
  rw [h]

theorem gate?_eq_some (hg : g.IsSound) {gate : Nat} (h : (gate, index) ∈ g.refs) :
    g.gate? index = some gate := by
  unfold gate?
  cases hfind : g.refs.find? (·.2 = index) with
  | none =>
    have hne := List.find?_eq_none.mp hfind _ h
    simp at hne
  | some p =>
    have hindex : p.2 = index := by simpa using List.find?_some hfind
    have hsame := List.inj_on_of_nodup_map hg.single (List.mem_of_find?_eq_some hfind) h hindex
    rw [hsame]
    rfl

theorem isFirst_iff (hg : g.IsSound) (h : index ∈ g.lineOf key) :
    g.isFirst index = true ↔ (g.lineOf key).head? = some index := by
  obtain ⟨gate, hgate, hmem⟩ := exists_gate_of_mem h
  unfold isFirst
  rw [gate?_eq_some hg hmem, lineOf_eq hgate]
  simp

theorem eq_of_lookup_eq (hg : g.IsSound) {gate : Nat} (h : g.inFlight.lookup key = some gate)
    (hother : g.inFlight.lookup other = some gate) : other = key := by
  have hsame := List.inj_on_of_nodup_map hg.distinct (mem_of_lookup hother) (mem_of_lookup h) rfl
  exact (Prod.mk.inj hsame).1

theorem eq_of_mem_lineOf (hg : g.IsSound) (h : index ∈ g.lineOf key)
    (hother : index ∈ g.lineOf other) : other = key := by
  obtain ⟨gate, hgate, hmem⟩ := exists_gate_of_mem h
  obtain ⟨gate', hgate', hmem'⟩ := exists_gate_of_mem hother
  have hsame := gate?_eq_some hg hmem
  rw [gate?_eq_some hg hmem'] at hsame
  cases hsame
  exact eq_of_lookup_eq hg hgate hgate'

theorem count_eq (hg : g.IsSound) {gate : Nat} (h : g.inFlight.lookup key = some gate) :
    g.count gate = 1 + (g.line gate).length := by
  have hflight : (g.inFlight.map Prod.snd).count gate = 1 :=
    List.count_eq_one_of_mem hg.distinct (List.mem_map_of_mem (mem_of_lookup h))
  have hrefs : (g.refs.map Prod.fst).count gate = (g.line gate).length := by
    unfold line
    rw [List.length_map, ← List.countP_eq_length_filter, List.count, List.countP_map]
    apply List.countP_congr
    intro p _
    simp
  rw [count, hflight, hrefs]

/-- A call that counts no more than two references is alone at its gate. -/
theorem isLast_iff (hg : g.IsSound) (h : index ∈ g.lineOf key) :
    g.isLast index = true ↔ g.lineOf key = [index] := by
  obtain ⟨gate, hgate, hmem⟩ := exists_gate_of_mem h
  have hlast : g.isLast index = true ↔ (g.line gate).length ≤ 1 := by
    unfold isLast
    rw [gate?_eq_some hg hmem, Option.any_some, decide_eq_true_eq, count_eq hg hgate]
    omega
  rw [hlast, lineOf_eq hgate]
  constructor
  · intro hlength
    have hline := mem_line.mpr hmem
    obtain ⟨first, hfirst⟩ : ∃ first, g.line gate = [first] := by
      rw [← List.length_eq_one_iff]
      have hpos := List.length_pos_of_mem hline
      omega
    rw [hfirst, List.mem_singleton] at hline
    rw [hfirst, hline]
  · intro hline
    rw [hline]
    exact Nat.le_refl 1

/-! ### Coming and leaving -/

theorem filter_of_notMem {line : List Nat} (h : index ∉ line) :
    line.filter (· ≠ index) = line := by
  rw [List.filter_eq_self]
  intro i hi
  have hne : i ≠ index := by
    rintro rfl
    exact h hi
  simpa using hne

theorem join_of_some {gate : Nat} (h : g.inFlight.lookup key = some gate) :
    g.join key index = { g with refs := g.refs ++ [(gate, index)] } := by
  unfold join
  rw [h]

theorem join_of_none (h : g.inFlight.lookup key = none) :
    g.join key index =
      ⟨(key, g.next) :: g.inFlight, g.refs ++ [(g.next, index)], g.next + 1⟩ := by
  unfold join
  rw [h]

theorem ref_lt (hg : g.IsSound) {p : Nat × Nat} (hp : p ∈ g.refs) : p.1 < g.next := by
  obtain ⟨key, hkey⟩ := hg.current p hp
  exact hg.bounded _ (mem_of_lookup hkey)

theorem IsSound.join (hg : g.IsSound) (key : String) (hindex : ∀ p ∈ g.refs, p.2 ≠ index) :
    (g.join key index).IsSound := by
  have hsingle : ∀ gate, ((g.refs ++ [(gate, index)]).map Prod.snd).Nodup := by
    intro gate
    rw [List.map_append, List.nodup_append]
    refine ⟨hg.single, List.nodup_singleton _, ?_⟩
    intro i hi j hj hij
    obtain ⟨p, hp, rfl⟩ := List.mem_map.mp hi
    exact hindex p hp (hij.trans (List.mem_singleton.mp hj))
  cases hkey : g.inFlight.lookup key with
  | some gate =>
    rw [join_of_some hkey]
    refine ⟨hg.distinct, hg.bounded, hsingle gate, ?_⟩
    intro p hp
    rcases List.mem_append.mp hp with hold | hnew
    · exact hg.current p hold
    · rw [List.mem_singleton.mp hnew]
      exact ⟨key, hkey⟩
  | none =>
    rw [join_of_none hkey]
    refine ⟨?_, ?_, hsingle g.next, ?_⟩
    · refine List.nodup_cons.mpr ⟨?_, hg.distinct⟩
      intro hmem
      obtain ⟨p, hp, hgate⟩ := List.mem_map.mp hmem
      exact absurd hgate (Nat.ne_of_lt (hg.bounded p hp))
    · intro p hp
      rcases List.mem_cons.mp hp with rfl | hold
      · exact Nat.lt_succ_self g.next
      · exact Nat.lt_succ_of_lt (hg.bounded p hold)
    · intro p hp
      rcases List.mem_append.mp hp with hold | hnew
      · obtain ⟨other, hother⟩ := hg.current p hold
        refine ⟨other, ?_⟩
        have hne : other ≠ key := by
          rintro rfl
          rw [hkey] at hother
          cases hother
        rw [List.lookup_cons, beq_false_of_ne hne]
        exact hother
      · rw [List.mem_singleton.mp hnew]
        exact ⟨key, List.lookup_cons_self⟩

theorem line_append (g : Gates) (gate other : Nat) (inFlight : List (String × Nat)) (next : Nat) :
    line ⟨inFlight, g.refs ++ [(gate, index)], next⟩ other =
      if gate = other then g.line other ++ [index] else g.line other := by
  unfold line
  rw [List.filter_append, List.map_append]
  split_ifs with h
  · simp [h]
  · simp [h]

/-- A call that comes stands last in the line of its key. -/
theorem lineOf_join (hg : g.IsSound) (key : String) (index : Nat) :
    (g.join key index).lineOf = Function.update g.lineOf key (g.lineOf key ++ [index]) := by
  funext other
  cases hkey : g.inFlight.lookup key with
  | some gate =>
    rw [join_of_some hkey]
    by_cases hsame : other = key
    · subst hsame
      rw [Function.update_self, lineOf_eq hkey]
      exact (lineOf_eq (g := { g with refs := g.refs ++ [(gate, index)] }) hkey).trans
        ((line_append g gate gate _ _).trans (if_pos rfl))
    · rw [Function.update_of_ne hsame]
      unfold lineOf
      cases hother : g.inFlight.lookup other with
      | none => rfl
      | some gate' =>
        have hne : gate ≠ gate' := by
          rintro rfl
          exact hsame (eq_of_lookup_eq hg hkey hother)
        exact (line_append g gate gate' _ _).trans (if_neg hne)
  | none =>
    have hempty : g.lineOf key = [] := by
      unfold lineOf
      rw [hkey]
    rw [join_of_none hkey]
    by_cases hsame : other = key
    · subst hsame
      have hnew : g.line g.next = [] := by
        apply List.eq_nil_iff_forall_not_mem.mpr
        intro i hi
        exact absurd (ref_lt hg (mem_line.mp hi)) (Nat.lt_irrefl _)
      rw [Function.update_self, hempty, lineOf_eq List.lookup_cons_self, line_append, if_pos rfl,
        hnew]
    · rw [Function.update_of_ne hsame]
      unfold lineOf
      rw [List.lookup_cons, beq_false_of_ne hsame]
      cases hother : g.inFlight.lookup other with
      | none => rfl
      | some gate' =>
        have hne : g.next ≠ gate' := Nat.ne_of_gt (hg.bounded _ (mem_of_lookup hother))
        exact (line_append g g.next gate' _ _).trans (if_neg hne)

theorem line_drop (g : Gates) (index gate : Nat) :
    (g.drop index).line gate = (g.line gate).filter (· ≠ index) := by
  unfold line drop
  rw [List.filter_map, List.filter_filter, List.filter_filter]
  congr 1
  apply List.filter_congr
  intro p _
  simp [Bool.and_comm]

theorem IsSound.drop (hg : g.IsSound) (index : Nat) : (g.drop index).IsSound :=
  ⟨hg.distinct, hg.bounded, hg.single.sublist (List.filter_sublist.map Prod.snd),
    fun p hp => hg.current p (List.mem_filter.mp hp).1⟩

theorem lineOf_drop (g : Gates) (index : Nat) (key : String) :
    (g.drop index).lineOf key = (g.lineOf key).filter (· ≠ index) := by
  unfold lineOf
  change (match g.inFlight.lookup key with
    | some gate => (g.drop index).line gate
    | none => []) = _
  cases g.inFlight.lookup key with
  | none => rfl
  | some gate => exact line_drop g index gate

/-- The key goes out of flight only when no other call refers to its gate, so the other references
stay current. -/
theorem IsSound.leave (hg : g.IsSound) (h : index ∈ g.lineOf key) :
    (g.leave key index).IsSound := by
  unfold Gates.leave
  split
  · next hlast =>
    have hline := (isLast_iff hg h).mp hlast
    obtain ⟨gate, hgate, -⟩ := exists_gate_of_mem h
    refine ⟨hg.distinct.sublist (List.filter_sublist.map Prod.snd),
      fun p hp => hg.bounded p (List.mem_filter.mp hp).1,
      hg.single.sublist (List.filter_sublist.map Prod.snd), ?_⟩
    intro p hp
    obtain ⟨hmem, hindex⟩ := List.mem_filter.mp hp
    obtain ⟨other, hother⟩ := hg.current p hmem
    refine ⟨other, ?_⟩
    have hne : other ≠ key := by
      -- A reference to the gate that goes would be that of another call in the line.
      rintro rfl
      have hp : p.2 ∈ g.lineOf other := by
        rw [lineOf_eq hother]
        exact mem_line.mpr hmem
      rw [hline, List.mem_singleton] at hp
      simp [hp] at hindex
    exact (lookup_filter_ne g.inFlight hne).trans hother
  · exact hg.drop index

theorem lineOf_leave (hg : g.IsSound) (h : index ∈ g.lineOf key) (other : String) :
    (g.leave key index).lineOf other = (g.lineOf other).filter (· ≠ index) := by
  unfold leave
  split
  · next hlast =>
    rw [lineOf_drop]
    by_cases hsame : other = key
    · subst hsame
      have hgone : ({ g with inFlight := g.inFlight.filter (·.1 ≠ other) } : Gates).lineOf other
          = [] := by
        unfold lineOf
        rw [lookup_filter_self]
      rw [hgone, (isLast_iff hg h).mp hlast]
      simp
    · have hkept : ({ g with inFlight := g.inFlight.filter (·.1 ≠ key) } : Gates).lineOf other
          = g.lineOf other := by
        unfold lineOf
        rw [lookup_filter_ne _ hsame]
        rfl
      rw [hkept]
  · exact lineOf_drop g index other

/-! ### The keys in flight -/

/-- The keys in flight are the gates that a store notes. -/
def AreNoted (g : Gates) (store : Store) : Prop := store.gates = g.inFlight.map Prod.fst

theorem AreNoted.join {store : Store} (h : g.AreNoted store) (key : String) (index : Nat) :
    (g.join key index).AreNoted (store.openGate key) := by
  unfold AreNoted Store.openGate at *
  cases hkey : g.inFlight.lookup key with
  | some gate =>
    have hmem : key ∈ store.gates := by
      rw [h]
      exact List.mem_map_of_mem (mem_of_lookup hkey)
    rw [if_pos (List.contains_iff_mem.mpr hmem), join_of_some hkey]
    exact h
  | none =>
    have hnew : ¬store.gates.contains key = true := by
      rw [List.contains_iff_mem, h]
      intro hmem
      obtain ⟨p, hp, hfst⟩ := List.mem_map.mp hmem
      exact ne_of_lookup_eq_none hkey p hp hfst
    rw [if_neg hnew, join_of_none hkey, h]
    rfl

theorem AreNoted.drop {store : Store} (h : g.AreNoted store) (index : Nat) :
    (g.drop index).AreNoted store := h

theorem AreNoted.leave {store : Store} (h : g.AreNoted store) (key : String) (index : Nat) :
    (g.leave key index).AreNoted (store.leaveGate key (g.isLast index)) := by
  unfold AreNoted Store.leaveGate Gates.leave at *
  split
  · change store.gates.filter (· ≠ key) = (g.inFlight.filter (·.1 ≠ key)).map Prod.fst
    rw [h, List.filter_map]
    rfl
  · exact h

theorem isSound_idle (keys : List String) : (idle keys).IsSound := by
  refine ⟨?_, ?_, List.nodup_nil, nofun⟩
  · unfold idle
    rw [List.zipIdx_map_snd]
    exact List.nodup_range' 1
  · intro p hp
    have hlt := (List.mem_zipIdx hp).2.1
    rwa [Nat.zero_add] at hlt

theorem lineOf_idle (keys : List String) (key : String) : (idle keys).lineOf key = [] := by
  unfold lineOf
  split <;> rfl

end Gates

end DatasetSearch.Cache
