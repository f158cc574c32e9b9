/-
Groups of items that share a key.

One pass gathers the items, and three things grow together while it runs: the places of the
keys, the list of groups, and the part of the input that was taken in.  What ties them is
`KeyedGroups.Tracks`: the place of a key is where its group stands, a group has the items
under its key that were taken in, and groups stand in the order in which their keys first
occur.  Taking in one more item keeps it, and there are three ways to do so: the item has no
key, it begins the group of its key, or it joins that group.

A list of groups that is lawful (`Grouped`) is the only one for its items: which keys have a
group is said, in which order, and what is in it.  So what is found in other lists, in the
members of one group say, is known as soon as a lawful list of groups is given for them.
-/
import Mathlib.Data.List.Forall2
import Mathlib.Data.List.Nodup
import SchoolFees.Settlement.Duplicates

namespace SchoolFees

/-! ### Keys and their items -/

section

variable {α : Type} {key : α → Option String} {item : α} {items : List α} {k k' : String}

/-- The item counts under this key: it has one, and this is it without the blanks around it, with
something left. -/
def Under (key : α → Option String) (k : String) (item : α) : Prop :=
  (key item).map Text.trim = some k ∧ k ≠ ""

instance (key : α → Option String) (k : String) (item : α) : Decidable (Under key k item) :=
  inferInstanceAs (Decidable (_ ∧ _))

/-- No item counts under two keys. -/
theorem Under.eq (h : Under key k item) (h' : Under key k' item) : k = k' :=
  Option.some.inj (h.1.symm.trans h'.1)

theorem Under.iff_eq (h : Under key k item) : Under key k' item ↔ k' = k :=
  ⟨fun h' => h'.eq h, fun same => same ▸ h⟩

/-- All items under a key, in input order. -/
def membersUnder (key : α → Option String) (items : List α) (k : String) : List α :=
  items.filter (Under key k ·)

/-- Where the first item under a key stands. -/
def firstAt (key : α → Option String) (items : List α) (k : String) : Nat :=
  items.findIdx (Under key k ·)

theorem mem_membersUnder : item ∈ membersUnder key items k ↔ item ∈ items ∧ Under key k item := by
  rw [membersUnder, List.mem_filter, decide_eq_true_eq]

theorem length_membersUnder (key : α → Option String) (items : List α) (k : String) :
    (membersUnder key items k).length = items.countP (Under key k ·) :=
  List.countP_eq_length_filter.symm

/-- The members under a key have no other key. -/
theorem membersUnder_membersUnder (key : α → Option String) (items : List α) (k k' : String) :
    membersUnder key (membersUnder key items k) k' =
      if k' = k then membersUnder key items k else [] := by
  split
  · rename_i same
    refine List.filter_eq_self.mpr ?_
    intro item hitem
    rw [same]
    exact decide_eq_true (mem_membersUnder.mp hitem).2
  · rename_i other
    refine List.filter_eq_nil_iff.mpr ?_
    intro item hitem
    rw [decide_eq_true_eq]
    exact fun under => other (under.eq (mem_membersUnder.mp hitem).2)

theorem exists_under_append :
    (∃ x ∈ items ++ [item], Under key k x) ↔ (∃ x ∈ items, Under key k x) ∨ Under key k item := by
  simp [or_and_right, exists_or]

theorem membersUnder_append_of_under (h : Under key k item) :
    membersUnder key (items ++ [item]) k = membersUnder key items k ++ [item] := by
  simp [membersUnder, h]

theorem membersUnder_append_of_not (h : ¬ Under key k item) :
    membersUnder key (items ++ [item]) k = membersUnder key items k := by
  simp [membersUnder, h]

theorem firstAt_lt (occurs : ∃ item ∈ items, Under key k item) :
    firstAt key items k < items.length :=
  List.findIdx_lt_length_of_exists (by simpa using occurs)

/-- A key that has occurred keeps its place. -/
theorem firstAt_append (occurs : ∃ item ∈ items, Under key k item) (more : List α) :
    firstAt key (items ++ more) k = firstAt key items k := by
  unfold firstAt
  rw [List.findIdx_append]
  exact if_pos (firstAt_lt occurs)

theorem firstAt_append_of_new (new : ∀ item ∈ items, ¬ Under key k item) (h : Under key k item) :
    firstAt key (items ++ [item]) k = items.length := by
  have absent : items.findIdx (Under key k ·) = items.length :=
    List.findIdx_eq_length.mpr (by simpa using new)
  unfold firstAt
  rw [List.findIdx_append, if_neg (by omega), List.findIdx_cons, decide_eq_true h, cond_true,
    Nat.zero_add]

end

/-! ### One pass -/

/-- What stands where in a list with one more at its end. -/
theorem getElem?_concat_eq_some_iff {β : Type} {l : List β} {a b : β} {i : Nat} :
    (l ++ [a])[i]? = some b ↔ l[i]? = some b ∨ i = l.length ∧ a = b := by
  rcases Nat.lt_trichotomy i l.length with inside | rfl | outside
  · simp [List.getElem?_append_left inside, Nat.ne_of_lt inside]
  · simp
  · have beyond : (l ++ [a])[i]? = none := List.getElem?_eq_none (by simp; omega)
    simp [beyond, Nat.ne_of_gt outside, List.getElem?_eq_none (Nat.le_of_lt outside)]

namespace KeyedGroups

variable {α : Type} {key : α → Option String} {g : KeyedGroups α} {item : α} {items : List α}
  {k : String} {place : Nat}

/-- The keys that have a group, in the order of the groups. -/
def keys (g : KeyedGroups α) : List String := g.groups.map (·.1)

theorem length_keys (g : KeyedGroups α) : g.keys.length = g.groups.length := List.length_map _

theorem keys_begun (g : KeyedGroups α) (k : String) (item : α) :
    (g.begun k item).keys = g.keys ++ [k] := List.map_append

theorem keys_joined (inRange : place < g.groups.length) (item : α) :
    (g.joined place inRange item).keys = g.keys := by
  have inKeys : place < g.keys.length := by rwa [length_keys]
  have own : g.groups[place].1 = g.keys[place] := by simp [keys]
  show (g.groups.set place (g.groups[place].1, g.groups[place].2 ++ [item])).map (·.1) = _
  rw [List.map_set]
  show g.keys.set place g.groups[place].1 = g.keys
  rw [own, List.set_getElem_self]

/-- The groups are those of the items that were taken in, and every key knows where its group is. -/
structure Tracks (key : α → Option String) (g : KeyedGroups α) (items : List α) : Prop where
  placed : ∀ (k : String) (place : Nat), g.places.get? k = some place ↔ g.keys[place]? = some k
  members : ∀ group ∈ g.groups, group.2 = membersUnder key items group.1
  occurs : ∀ k, k ∈ g.keys ↔ ∃ item ∈ items, Under key k item
  ordered : g.keys.Pairwise fun k k' => firstAt key items k < firstAt key items k'

/-- A key without a place has no group. -/
theorem Tracks.notMem_keys (h : Tracks key g items) (new : g.places.get? k = none) :
    k ∉ g.keys := by
  intro hk
  obtain ⟨place, found⟩ := List.mem_iff_getElem?.mp hk
  rw [(h.placed k place).mpr found] at new
  cases new

theorem Tracks.absent (h : Tracks key g items) (new : g.places.get? k = none) :
    ∀ x ∈ items, ¬ Under key k x := by
  intro x hx under
  exact h.notMem_keys new ((h.occurs k).mpr ⟨x, hx, under⟩)

/-- No group but the one at its place is under a key. -/
theorem Tracks.eq_place (h : Tracks key g items) (known : g.places.get? k = some place)
    {place' : Nat} (named : g.keys[place']? = some k) : place' = place := by
  rw [(h.placed k place').mpr named] at known
  exact Option.some.inj known

theorem Tracks.fst_getElem (h : Tracks key g items) (known : g.places.get? k = some place)
    (inRange : place < g.groups.length) : g.groups[place].1 = k := by
  have named := (h.placed k place).mp known
  simpa [keys, List.getElem?_eq_getElem inRange] using named

theorem tracks_empty (key : α → Option String) : Tracks key empty [] where
  placed k place := by simp [empty, keys]
  members group h := by cases h
  occurs k := by simp [empty, keys]
  ordered := List.Pairwise.nil

/-- More items leave the order of the groups as it is. -/
theorem Tracks.ordered_append (h : Tracks key g items) (more : List α) :
    g.keys.Pairwise fun k k' =>
      firstAt key (items ++ more) k < firstAt key (items ++ more) k' := by
  refine h.ordered.imp_of_mem ?_
  intro k k' hk hk' earlier
  rwa [firstAt_append ((h.occurs k).mp hk), firstAt_append ((h.occurs k').mp hk')]

/-- An item without a key changes nothing. -/
theorem Tracks.skipped (h : Tracks key g items) (keyless : ∀ k, ¬ Under key k item) :
    Tracks key g (items ++ [item]) where
  placed := h.placed
  members group hmem := by
    rw [h.members group hmem, membersUnder_append_of_not (keyless group.1)]
  occurs k := by
    rw [h.occurs k, exists_under_append, or_iff_left (keyless k)]
  ordered := h.ordered_append [item]

/-- The first item under a key begins its group. -/
theorem Tracks.begun (h : Tracks key g items) (new : g.places.get? k = none)
    (under : Under key k item) : Tracks key (g.begun k item) (items ++ [item]) where
  placed k' place := by
    rw [keys_begun, getElem?_concat_eq_some_iff, ← h.placed k' place, length_keys]
    show (g.places.set k g.groups.length).get? k' = some place ↔ _
    rw [Registry.get?_set]
    by_cases same : k' = k
    · rw [if_pos same, same, new]
      simp [eq_comm]
    · rw [if_neg same]
      simp [Ne.symm same]
  members group hmem := by
    rcases List.mem_append.mp hmem with old | added
    · have other : ¬ Under key group.1 item := by
        rw [under.iff_eq]
        rintro rfl
        exact h.notMem_keys new (List.mem_map_of_mem old)
      rw [h.members group old, membersUnder_append_of_not other]
    · rw [List.mem_singleton.mp added, membersUnder_append_of_under under]
      have nobody : membersUnder key items k = [] := by simpa [membersUnder] using h.absent new
      rw [nobody, List.nil_append]
  occurs k' := by
    rw [keys_begun, List.mem_append, h.occurs k', List.mem_singleton, exists_under_append,
      under.iff_eq]
  ordered := by
    rw [keys_begun, List.pairwise_append]
    refine ⟨h.ordered_append [item], List.pairwise_singleton _ _, ?_⟩
    intro k' hk' last hlast
    rw [List.mem_singleton.mp hlast, firstAt_append ((h.occurs k').mp hk'),
      firstAt_append_of_new (h.absent new) under]
    exact firstAt_lt ((h.occurs k').mp hk')

/-- A further item under a key joins its group. -/
theorem Tracks.joined (h : Tracks key g items) (known : g.places.get? k = some place)
    (under : Under key k item) :
    Tracks key (g.joined place (g.inRange known) item) (items ++ [item]) where
  placed k' place' := by
    rw [keys_joined]
    exact h.placed k' place'
  members group hmem := by
    have inRange := g.inRange known
    obtain ⟨place', found⟩ := List.mem_iff_getElem?.mp hmem
    have found : (g.groups.set place (g.groups[place].1, g.groups[place].2 ++ [item]))[place']? =
        some group := found
    rw [List.getElem?_set] at found
    by_cases here : place = place'
    · rw [if_pos here, if_pos inRange, Option.some.injEq] at found
      rw [← found, h.fst_getElem known inRange, membersUnder_append_of_under under,
        h.members _ (List.getElem_mem inRange), h.fst_getElem known inRange]
    · rw [if_neg here] at found
      have other : ¬ Under key group.1 item := by
        intro under'
        have named : g.keys[place']? = some k := by
          rw [keys, List.getElem?_map, found, under.eq under']
          rfl
        exact here (h.eq_place known named).symm
      rw [membersUnder_append_of_not other, h.members group (List.mem_of_getElem? found)]
  occurs k' := by
    have occurred : Under key k' item → ∃ x ∈ items, Under key k' x := by
      intro under'
      rw [under'.eq under]
      exact (h.occurs k).mp (List.mem_of_getElem? ((h.placed k place).mp known))
    rw [keys_joined, h.occurs k', exists_under_append, or_iff_left_of_imp occurred]
  ordered := by
    rw [keys_joined]
    exact h.ordered_append [item]

/-- **Taking in one more item keeps groups, places and input together.** -/
theorem Tracks.take (h : Tracks key g items) (item : α) :
    Tracks key (g.take key item) (items ++ [item]) := by
  unfold KeyedGroups.take
  split
  · rename_i keyless
    refine h.skipped ?_
    intro k under
    rw [Text.keyed_eq_some_iff.mpr under] at keyless
    cases keyless
  · rename_i k keyed
    have under : Under key k item := Text.keyed_eq_some_iff.mp keyed
    split
    · rename_i new
      exact h.begun new under
    · rename_i place known
      exact h.joined known under

theorem Tracks.foldl_take (h : Tracks key g items) (more : List α) :
    Tracks key (more.foldl (KeyedGroups.take key) g) (items ++ more) := by
  induction more generalizing g items with
  | nil => rwa [List.append_nil]
  | cons item rest ih =>
    have onward := ih (h.take item)
    rwa [List.append_assoc, List.singleton_append] at onward

theorem tracks_ofItems (key : α → Option String) (items : List α) :
    Tracks key (ofItems key items) items := (tracks_empty key).foldl_take items

/-- Every key that occurs has the group of all items under it. -/
theorem mem_groups (occurs : ∃ item ∈ items, Under key k item) :
    (k, membersUnder key items k) ∈ (ofItems key items).groups := by
  have known := tracks_ofItems key items
  obtain ⟨group, hmem, rfl⟩ := List.mem_map.mp ((known.occurs k).mpr occurs)
  rwa [← known.members group hmem]

end KeyedGroups

/-! ### Groups -/

namespace DuplicateGroup

variable {α : Type} {key : α → Option String} {items items' : List α} {item : α} {k : String}
  {groups groups' : List (DuplicateGroup α)} {group : DuplicateGroup α}

/-- The lawful groups of a list of items. -/
structure Grouped (key : α → Option String) (items : List α) (groups : List (DuplicateGroup α)) :
    Prop where
  /-- A key has a group when it occurs twice. -/
  keys : ∀ k, k ∈ groups.map (·.key) ↔ 2 ≤ items.countP (Under key k ·)
  /-- No key has two groups, and they stand in the order in which their keys first occur. -/
  ordered : groups.Pairwise fun g g' => firstAt key items g.key < firstAt key items g'.key
  /-- A group has all items under its key, in input order. -/
  members : ∀ g ∈ groups, g.members = membersUnder key items g.key
  counted : ∀ g ∈ groups, g.count = g.members.length

/-- **What is found is lawful.** -/
theorem grouped_find (key : α → Option String) (items : List α) :
    Grouped key items (find key items) := by
  have known := KeyedGroups.tracks_ofItems key items
  refine ⟨?_, ?_, ?_, ?_⟩
  · intro k
    refine ⟨?_, ?_⟩
    · intro h
      obtain ⟨group, hgroup, rfl⟩ := List.mem_map.mp h
      obtain ⟨g, hg, rfl⟩ := List.mem_map.mp hgroup
      obtain ⟨hg, shared⟩ := List.mem_filter.mp hg
      rw [known.members g hg, length_membersUnder] at shared
      exact of_decide_eq_true shared
    · intro shared
      have occurs : ∃ item ∈ items, Under key k item := by
        have positive : 0 < items.countP (Under key k ·) := by omega
        simpa using List.countP_pos_iff.mp positive
      rw [← length_membersUnder] at shared
      exact List.mem_map.mpr ⟨_, List.mem_map.mpr ⟨_, List.mem_filter.mpr
        ⟨KeyedGroups.mem_groups occurs, decide_eq_true shared⟩, rfl⟩, rfl⟩
  · exact List.pairwise_map.mpr ((List.pairwise_map.mp known.ordered).filter _)
  · intro group hgroup
    obtain ⟨g, hg, rfl⟩ := List.mem_map.mp hgroup
    exact known.members g (List.mem_of_mem_filter hg)
  · intro group hgroup
    obtain ⟨g, -, rfl⟩ := List.mem_map.mp hgroup
    rfl

namespace Grouped

/-- The group that a key has. -/
def ofKey (key : α → Option String) (items : List α) (k : String) : DuplicateGroup α :=
  ⟨k, (membersUnder key items k).length, membersUnder key items k⟩

theorem eq_ofKey (h : Grouped key items groups) (hmem : group ∈ groups) :
    group = ofKey key items group.key := by
  have members := h.members group hmem
  have counted := (h.counted group hmem).trans (congrArg List.length members)
  obtain ⟨k, count, ms⟩ := group
  exact congr (congrArg (DuplicateGroup.mk k) counted) members

theorem mem_iff (h : Grouped key items groups) :
    group ∈ groups ↔
      2 ≤ items.countP (Under key group.key ·) ∧ group = ofKey key items group.key := by
  refine ⟨?_, ?_⟩
  · intro hmem
    exact ⟨(h.keys group.key).mp (List.mem_map_of_mem hmem), h.eq_ofKey hmem⟩
  · intro hgroup
    obtain ⟨shared, same⟩ := hgroup
    obtain ⟨g, hg, hkey⟩ := List.mem_map.mp ((h.keys group.key).mpr shared)
    rwa [same, ← hkey, ← h.eq_ofKey hg]

theorem nodup (h : Grouped key items groups) : groups.Nodup := by
  refine h.ordered.imp ?_
  intro g g' earlier same
  rw [same] at earlier
  exact Nat.lt_irrefl _ earlier

/-- **A list of items has one lawful list of groups.** -/
theorem eq (h : Grouped key items groups) (h' : Grouped key items groups') : groups = groups' := by
  refine List.Perm.eq_of_pairwise ?_ h.ordered h'.ordered ?_
  · intro g g' _ _ earlier later
    exact absurd earlier (Nat.lt_asymm later)
  · refine (List.perm_ext_iff_of_nodup h.nodup h'.nodup).mpr ?_
    intro group
    rw [h.mem_iff, h'.mem_iff]

/-! ### Other orders of the items -/

/-- In another order of the items, the keys have the groups of that order. -/
theorem map_ofKey_perm (h : Grouped key items groups) (h' : Grouped key items' groups')
    (perm : items.Perm items') : (groups.map fun g => ofKey key items' g.key).Perm groups' := by
  have nodup : (groups.map fun g => ofKey key items' g.key).Nodup := by
    refine List.pairwise_map.mpr (h.ordered.imp ?_)
    intro g g' earlier same
    have keys : g.key = g'.key := (DuplicateGroup.mk.inj same).1
    rw [keys] at earlier
    exact Nat.lt_irrefl _ earlier
  refine (List.perm_ext_iff_of_nodup nodup h'.nodup).mpr ?_
  intro group
  rw [h'.mem_iff, ← perm.countP_eq, ← h.keys, List.mem_map, List.mem_map]
  refine ⟨?_, ?_⟩
  · rintro ⟨g, hg, rfl⟩
    exact ⟨⟨g, hg, rfl⟩, rfl⟩
  · rintro ⟨⟨g, hg, hkey⟩, same⟩
    exact ⟨g, hg, by rw [hkey, ← same]⟩

end Grouped

/-- The same groups with the same members, up to the order of either. -/
def Rearranged (groups groups' : List (DuplicateGroup α)) : Prop :=
  ∃ moved : List (DuplicateGroup α), moved.Perm groups' ∧
    List.Forall₂ (fun g g' => g.key = g'.key ∧ g.count = g'.count ∧ g.members.Perm g'.members)
      groups moved

theorem Grouped.rearranged (h : Grouped key items groups) (h' : Grouped key items' groups')
    (perm : items.Perm items') : Rearranged groups groups' := by
  refine ⟨_, h.map_ofKey_perm h' perm, List.forall₂_map_right_iff.mpr (List.forall₂_same.mpr ?_)⟩
  intro g hg
  have members : g.members.Perm (membersUnder key items' g.key) := by
    rw [h.members g hg]
    exact perm.filter _
  exact ⟨rfl, (h.counted g hg).trans members.length_eq, members⟩

/-! ### The members of one group -/

/-- The members of a group have that group, and no other. -/
theorem Grouped.alone (h : Grouped key items groups) (hmem : group ∈ groups) :
    Grouped key group.members [group] := by
  have shared := (h.mem_iff.mp hmem).1
  have members := h.members group hmem
  rw [← length_membersUnder] at shared
  refine ⟨?_, List.pairwise_singleton _ _, ?_, ?_⟩
  · intro k
    rw [List.map_singleton, List.mem_singleton, ← length_membersUnder, members,
      membersUnder_membersUnder]
    split
    · rename_i same
      simpa [same] using shared
    · rename_i other
      simpa using other
  · intro g hg
    rw [List.mem_singleton.mp hg, members, membersUnder_membersUnder, if_pos rfl]
  · intro g hg
    rw [List.mem_singleton.mp hg]
    exact h.counted group hmem

/-! ### The law -/

/-- All that is to be said of the groups of a list of items. -/
structure Exact (key : α → Option String) (items : List α) (groups : List (DuplicateGroup α)) :
    Prop extends Grouped key items groups where
  shared : ∀ g ∈ groups, 2 ≤ g.count
  /-- The key of a group is that of its members, without the blanks around it. -/
  trimmed : ∀ g ∈ groups, ∀ item ∈ g.members, (key item).map Text.trim = some g.key
  keyless : ∀ item, (∀ k, ¬ Under key k item) → ∀ g ∈ groups, item ∉ g.members
  single : ∀ k item, Under key k item → items.countP (Under key k ·) = 1 →
    ∀ g ∈ groups, item ∉ g.members
  /-- Other groups would break the law. -/
  only : ∀ groups', Grouped key items groups' → groups' = groups
  rearranged : ∀ items', items.Perm items' → Rearranged groups (find key items')
  alone : ∀ g ∈ groups, find key g.members = [g]

theorem Grouped.exact (h : Grouped key items groups) : Exact key items groups := by
  have under : ∀ g ∈ groups, ∀ item ∈ g.members, Under key g.key item := by
    intro g hg item hitem
    rw [h.members g hg] at hitem
    exact (mem_membersUnder.mp hitem).2
  have shared : ∀ g ∈ groups, 2 ≤ items.countP (Under key g.key ·) := by
    intro g hg
    exact (h.mem_iff.mp hg).1
  refine ⟨h, ?_, ?_, ?_, ?_, ?_, ?_, ?_⟩
  · intro g hg
    rw [h.counted g hg, h.members g hg, length_membersUnder]
    exact shared g hg
  · intro g hg item hitem
    exact (under g hg item hitem).1
  · intro item keyless g hg hitem
    exact keyless g.key (under g hg item hitem)
  · intro k item single once g hg hitem
    have twice := shared g hg
    rw [(under g hg item hitem).eq single, once] at twice
    exact absurd twice (by decide)
  · intro groups' h'
    exact h'.eq h
  · intro items' perm
    exact h.rearranged (grouped_find key items') perm
  · intro g hg
    exact (grouped_find key g.members).eq (h.alone hg)

/--
**Items are grouped exactly by their keys.**  Whatever the items and however keys are read off
them, what is found has one group for every key that occurs twice, and everything that follows
from that; and a scan of records finds so under each of the three kinds of key.
-/
theorem find_exact (key : α → Option String) (items : List α) (records : List SchoolRecord) :
    Exact key items (find key items) ∧
      Exact (·.email) records (DuplicateReport.scan records).byEmail ∧
      Exact (·.clientId) records (DuplicateReport.scan records).byClientId ∧
      Exact (·.priceKey) records (DuplicateReport.scan records).byPriceKey :=
  ⟨(grouped_find key items).exact, (grouped_find _ records).exact, (grouped_find _ records).exact,
    (grouped_find _ records).exact⟩

/-- Keys that interleave, one of them with blanks around it, one that turns up once, a blank one and
none at all. -/
example : find id [some "b", some " a", none, some "a", some "c", some "\t", some "b "] =
    [⟨"b", 2, [some "b", some "b "]⟩, ⟨"a", 2, [some " a", some "a"]⟩] := by decide +kernel

end DuplicateGroup

end SchoolFees
