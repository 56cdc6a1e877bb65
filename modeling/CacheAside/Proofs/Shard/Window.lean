import Mathlib.Data.List.Perm.Subperm
import CacheAside.Proofs.Shard.Events
import CacheAside.Proofs.Shard.LastPut

namespace CacheAside

def countDistinct {K : Type} [BEq K] (keys : List K) : Nat := keys.eraseDups.length

section Distinct

variable {K : Type} [BEq K] [LawfulBEq K] {keys more : List K}

theorem nodup_eraseDups (keys : List K) : keys.eraseDups.Nodup := by
  cases keys with
  | nil => exact List.nodup_nil
  | cons key keys =>
    rw [List.eraseDups_cons, List.nodup_cons]
    refine ⟨?_, nodup_eraseDups _⟩
    rw [List.mem_eraseDups, List.mem_filter]
    simp
termination_by keys.length
decreasing_by exact Nat.lt_succ_of_le (List.length_filter_le _ _)

theorem length_le_countDistinct (nodup : keys.Nodup) (subset : keys ⊆ more) :
    keys.length ≤ countDistinct more :=
  (List.subperm_of_subset nodup fun _ member =>
    List.mem_eraseDups.mpr (subset member)).length_le

theorem countDistinct_le_length (subset : keys ⊆ more) : countDistinct keys ≤ more.length :=
  (List.subperm_of_subset (nodup_eraseDups keys) fun _ member =>
    subset (List.mem_eraseDups.mp member)).length_le

theorem countDistinct_mono (subset : keys ⊆ more) : countDistinct keys ≤ countDistinct more :=
  length_le_countDistinct (nodup_eraseDups keys) fun _ member =>
    subset (List.mem_eraseDups.mp member)

end Distinct

namespace Lru

variable {K V : Type} [BEq K] {capacity : Nat} {l l' : Lru K V} {key key' : K} {entry : K × V}

def ahead (l : Lru K V) (key : K) : Lru K V := l.takeWhile fun entry => entry.1 != key

theorem ahead_cons (entry : K × V) (l : Lru K V) (key : K) :
    ahead (entry :: l) key = if entry.1 == key then [] else entry :: l.ahead key := by
  rw [ahead, List.takeWhile_cons, bne]
  cases entry.1 == key <;> rfl

theorem eq_ahead_append (found : l.pair? key = some entry) :
    ∃ back, l = l.ahead key ++ entry :: back := by
  induction l with
  | nil => cases found
  | cons first l ih =>
    rw [pair?_cons] at found
    rw [ahead_cons]
    split at found
    · cases found
      exact ⟨l, by simp [*]⟩
    · obtain ⟨back, shape⟩ := ih found
      refine ⟨back, ?_⟩
      rw [if_neg ‹_›, List.cons_append, ← shape]

theorem ahead_dropLast (kept : (Lru.pair? l.dropLast key).isSome = true) :
    Lru.ahead l.dropLast key = l.ahead key := by
  induction l with
  | nil => cases kept
  | cons first l ih =>
    cases l with
    | nil => cases kept
    | cons second l =>
      rw [List.dropLast_cons_cons] at kept ⊢
      rw [ahead_cons, ahead_cons first]
      rw [pair?_cons] at kept
      split
      · rfl
      · rename_i differ
        rw [if_neg differ] at kept
        rw [ih kept]

variable [LawfulBEq K]

theorem ahead_without (other : key' ≠ key) :
    (l.without key').ahead key = (l.ahead key).without key' := by
  induction l with
  | nil => rfl
  | cons first l ih =>
    by_cases here : first.1 = key'
    · have passed : ¬ (first.1 == key) = true := by simp [here, other]
      rw [without, List.eraseP_cons_of_pos (by simp [here]), ahead_cons, if_neg passed, without,
        List.eraseP_cons_of_pos (by simp [here])]
    · rw [without, List.eraseP_cons_of_neg (by simp [here]), ahead_cons, ahead_cons]
      split
      · rfl
      · rw [without, List.eraseP_cons_of_neg (by simp [here])]
        exact congrArg (first :: ·) ih

theorem ahead_cons_of_ne (other : key' ≠ key) (value : V) :
    ahead ((key', value) :: l) key = (key', value) :: l.ahead key := by
  rw [ahead_cons, if_neg (by simpa using other)]

/-- Where a key stands after what happened since it was used last: if it is still there, then only
    keys used since are ahead of it, and all of them unless one was taken out; if it is not, then
    enough of them came in. -/
structure Window (capacity : Nat) (l : Lru K V) (key : K) (events : List (Cache.Event K V)) :
    Prop where
  used : (l.pair? key).isSome = true →
    (l.ahead key).map Prod.fst ⊆ Cache.touched events
  all : (l.pair? key).isSome = true → (∀ event ∈ events, event.removed? = none) →
    Cache.touched events ⊆ (l.ahead key).map Prod.fst
  displaced : l.pair? key = none → capacity ≤ countDistinct (Cache.touched events)

variable {events : List (Cache.Event K V)} {event : Cache.Event K V} {value : V}

theorem Window.here (value : V) (l : Lru K V) :
    Window capacity ((key, value) :: l) key [] := by
  have front : ahead ((key, value) :: l) key = [] := by simp [ahead_cons]
  refine ⟨?_, ?_, ?_⟩
  · intro _
    rw [front]
    exact List.Subset.refl _
  · intro _ _
    exact List.nil_subset _
  · intro absent
    simp [pair?_cons] at absent

theorem mem_fst_without (other : key' ≠ key) :
    key' ∈ (l.without key).map Prod.fst ↔ key' ∈ l.map Prod.fst := by
  constructor
  · intro member
    exact (List.eraseP_sublist.map _).subset member
  · intro member
    obtain ⟨entry, here, rfl⟩ := List.mem_map.mp member
    exact List.mem_map_of_mem ((List.mem_eraseP_of_neg (by simpa using other)).mpr here)

theorem Distinct.nodup_keys (distinct : l.Distinct) : (l.map Prod.fst).Nodup :=
  List.pairwise_map.mpr (distinct.imp fun differ => ne_of_beq_false differ)

/-- Another key comes to the front. What it finds there has the key where it was, but for the key
    that came, or has lost it. -/
theorem Window.enter (window : Window capacity l key events) (other : key' ≠ key)
    (touches : event.touched? = some key')
    (still : (l'.pair? key).isSome = true → (l.pair? key).isSome = true ∧ ∀ k, k ≠ key' →
      (k ∈ (l'.ahead key).map Prod.fst ↔ k ∈ (l.ahead key).map Prod.fst))
    (gone : l'.pair? key = none → capacity ≤ countDistinct (Cache.touched events ++ [key'])) :
    Window capacity ((key', value) :: l') key (events ++ [event]) := by
  have present : Lru.pair? ((key', value) :: l') key = l'.pair? key := by
    rw [pair?_cons, if_neg (by simpa using other)]
  refine ⟨?_, ?_, ?_⟩ <;> rw [present, Cache.touched_concat_some touches]
  · intro held
    obtain ⟨before, alike⟩ := still held
    rw [ahead_cons_of_ne other]
    intro k member
    by_cases same : k = key'
    · exact List.mem_append_right _ (List.mem_singleton.mpr same)
    · have ahead : k ∈ (l'.ahead key).map Prod.fst := by simpa [same] using member
      exact List.mem_append_left _ (window.used before ((alike k same).mp ahead))
  · intro held unremoved
    obtain ⟨before, alike⟩ := still held
    rw [ahead_cons_of_ne other]
    intro k member
    by_cases same : k = key'
    · exact same ▸ List.mem_cons_self
    · have used : k ∈ Cache.touched events := by simpa [same] using member
      have ahead := window.all before (fun e member => unremoved e (List.mem_append_left _ member))
        used
      exact List.mem_cons_of_mem _ ((alike k same).mpr ahead)
  · exact gone

/-- A key that falls out of a full shard was behind as many keys as the shard had room for but one;
    with the one that came in for it they make up the capacity. -/
theorem Window.fell (window : Window capacity l key events) (distinct : l.Distinct)
    (absent : l.pair? key' = none) (full : l.length = capacity) (held : l.pair? key = some entry)
    (gone : Lru.pair? l.dropLast key = none) :
    capacity ≤ countDistinct (Cache.touched events ++ [key']) := by
  obtain ⟨back, shape⟩ := eq_ahead_append held
  -- The pair that falls out is the last one, so all others are ahead of it.
  have last : back = [] := by
    cases back with
    | nil => rfl
    | cons next back =>
      have member : entry ∈ l.dropLast := by
        rw [shape, List.dropLast_append_cons]
        simp
      have differ := pair?_eq_none.mp gone entry member
      rw [(pair?_eq_some held).1] at differ
      cases differ
  subst last
  have used := window.used (by rw [held]; rfl)
  have nodup : (key' :: (l.ahead key).map Prod.fst).Nodup := by
    have inside : (l.ahead key).Sublist l := List.takeWhile_sublist _
    refine List.nodup_cons.mpr ⟨?_, distinct.nodup_keys.sublist (inside.map _)⟩
    intro member
    obtain ⟨e, here, rfl⟩ := List.mem_map.mp member
    have differ := pair?_eq_none.mp absent e (inside.subset here)
    rw [beq_self_eq_true] at differ
    cases differ
  have length : (key' :: (l.ahead key).map Prod.fst).length = capacity := by
    have whole := congrArg List.length shape
    rw [List.length_append, List.length_singleton] at whole
    rw [List.length_cons, List.length_map]
    omega
  rw [← length]
  apply length_le_countDistinct nodup
  intro k member
  rcases List.mem_cons.mp member with rfl | member
  · exact List.mem_append_right _ (List.mem_singleton_self _)
  · exact List.mem_append_left _ (used member)

/-- An event that is no use of a key and does not take it out keeps the window in step. -/
theorem Window.step (window : Window capacity l key events)
    (effect : Effect capacity l event l') (distinct : l.Distinct)
    (untouched : event.touched? ≠ some key) (kept : event.1.overwrites key = false) :
    Window capacity l' key (events ++ [event]) := by
  have longer {other : K} (gone : l.pair? key = none) :
      capacity ≤ countDistinct (Cache.touched events ++ [other]) :=
    Nat.le_trans (window.displaced gone) (countDistinct_mono (List.subset_append_left _ _))
  cases effect with
  | toFront key' value touches =>
    have other : key' ≠ key := fun same => untouched (same ▸ touches)
    have elsewhere : (l.without key').pair? key = l.pair? key :=
      pair?_without_of_ne (beq_false_of_ne other)
    apply window.enter other touches <;> rw [elsewhere]
    · intro held
      refine ⟨held, fun k differs => ?_⟩
      rw [ahead_without other, mem_fst_without differs]
    · exact longer
  | evicting key' value touches absent full =>
    have other : key' ≠ key := fun same => untouched (same ▸ touches)
    apply window.enter other touches
    · intro held
      obtain ⟨pair, found⟩ := Option.isSome_iff_exists.mp held
      refine ⟨by rw [pair?_of_dropLast found]; rfl, fun k _ => ?_⟩
      rw [ahead_dropLast held]
    · intro gone
      cases held : l.pair? key with
      | none => exact longer held
      | some entry => exact window.fell distinct absent full held gone
  | removed key' happened =>
    subst happened
    have other : key' ≠ key := ne_of_beq_false kept
    refine ⟨?_, ?_, ?_⟩ <;> rw [pair?_without_of_ne kept, Cache.touched_concat_none rfl]
    · intro held
      rw [ahead_without other]
      exact List.Subset.trans (List.eraseP_sublist.map _).subset (window.used held)
    · intro _ unremoved
      cases unremoved _ (List.mem_append_right _ (List.mem_singleton_self _))
    · exact window.displaced
  | cleared happened =>
    rw [happened] at kept
    cases kept
  | kept untouched unremoved =>
    refine ⟨?_, ?_, ?_⟩ <;> rw [Cache.touched_concat_none untouched]
    · exact window.used
    · intro held unremoved
      exact window.all held fun e member => unremoved e (List.mem_append_left _ member)
    · exact window.displaced

omit [LawfulBEq K] in
/-- Fewer keys than fit cannot have displaced a key. -/
theorem Window.present (window : Window capacity l key events)
    (few : countDistinct (Cache.touched events) < capacity) : (l.pair? key).isSome = true := by
  cases held : l.pair? key with
  | some pair => rfl
  | none => exact absurd (window.displaced held) (Nat.not_le.mpr few)

/-- As many keys as fit leave no place behind them. -/
theorem Window.absent (window : Window capacity l key events) (fits : l.length ≤ capacity)
    (many : capacity ≤ countDistinct (Cache.puts events))
    (unremoved : ∀ event ∈ events, event.removed? = none) : l.pair? key = none := by
  cases held : l.pair? key with
  | none => rfl
  | some pair =>
    have all := window.all (by rw [held]; rfl) unremoved
    have ahead := countDistinct_le_length
      (List.Subset.trans (Cache.puts_subset_touched events) all)
    obtain ⟨back, shape⟩ := eq_ahead_append held
    have whole := congrArg List.length shape
    rw [List.length_append, List.length_cons] at whole
    rw [List.length_map] at ahead
    omega

end Lru

namespace Shard

variable {K V : Type} [BEq K] [Hashable K] [LawfulBEq K] {s s' : Shard K V} {l : Lru K V} {key : K}
  {ops : List (Cache.Op K V)} {answers : List (Cache.Answer V)} {past : List (Cache.Event K V)}

theorem Models.window (m : s.Models l) (window : Lru.Window s.capacity l key past)
    (positive : 0 < s.capacity) (entries : ∀ op ∈ ops, op.onEntries = true)
    (ran : replay interface.step s ops = .ok (answers, s'))
    (unused : ∀ event : Cache.Event K V, event ∈ ops.zip answers →
      event.touched? ≠ some key ∧ event.1.overwrites key = false) :
    ∃ l', s'.Models l' ∧ s'.capacity = s.capacity ∧
      Lru.Window s.capacity l' key (past ++ ops.zip answers) := by
  -- The past grows by the event of each step, so the window is about all events since the use.
  induction ops generalizing s l past answers with
  | nil =>
    cases ran
    exact ⟨l, m, rfl, by rwa [List.zip_nil_left, List.append_nil]⟩
  | cons op ops ih =>
    obtain ⟨answer, s₁, rest, stepped, onward, rfl⟩ := replay_cons_eq_ok ran
    rw [List.zip_cons_cons] at unused ⊢
    obtain ⟨l₁, effect, served⟩ := m.effect positive (entries op List.mem_cons_self) stepped
    obtain ⟨untouched, kept⟩ := unused _ List.mem_cons_self
    have window₁ := window.step effect m.distinct untouched kept
    rw [← served.capacity] at window₁
    obtain ⟨l', m', capacity, window'⟩ := ih served.models window₁ (served.capacity ▸ positive)
      (fun op member => entries op (List.mem_cons_of_mem _ member)) onward
      (fun event member => unused event (List.mem_cons_of_mem _ member))
    rw [served.capacity, List.append_assoc] at window'
    exact ⟨l', m', capacity.trans served.capacity, window'⟩

theorem Models.after_run (m : s.Models l) (entries : ∀ op ∈ ops, op.onEntries = true)
    (ran : replay interface.step s ops = .ok (answers, s')) :
    ∃ l', s'.Models l' ∧ s'.capacity = s.capacity := by
  induction ops generalizing s l answers with
  | nil =>
    cases ran
    exact ⟨l, m, rfl⟩
  | cons op ops ih =>
    obtain ⟨answer, s₁, rest, stepped, onward, rfl⟩ := replay_cons_eq_ok ran
    obtain ⟨_, served⟩ := (m.serve (entries op List.mem_cons_self)).of_ok stepped
    obtain ⟨l', m', capacity⟩ := ih served.models
      (fun op member => entries op (List.mem_cons_of_mem _ member)) onward
    exact ⟨l', m', capacity.trans served.capacity⟩

/-- Where a key stands at the end of a run in which it was used and then left alone. -/
theorem Models.window_since_use (m : s.Models l) (positive : 0 < s.capacity)
    {before since : List (Cache.Event K V)} {touch : Cache.Event K V}
    (entries : ∀ event ∈ before ++ touch :: since, event.1.onEntries = true)
    (ran : replay interface.step s ((before ++ touch :: since).map Prod.fst) =
      .ok ((before ++ touch :: since).map Prod.snd, s'))
    (touches : touch.touched? = some key)
    (unused : ∀ event ∈ since, event.touched? ≠ some key ∧ event.1.overwrites key = false) :
    ∃ l', s'.Models l' ∧ Lru.Window s'.capacity l' key since := by
  rw [List.map_append, List.map_append, List.map_cons, List.map_cons] at ran
  obtain ⟨first, s₁, rest, ran₁, onward, shape⟩ := replay_append_eq_ok ran
  obtain ⟨rfl, rfl⟩ := List.append_inj shape.symm (by rw [length_of_replay ran₁]; simp)
  obtain ⟨answer, s₂, last, stepped, ran₂, same⟩ := replay_cons_eq_ok onward
  cases same
  have entries₁ : ∀ op ∈ before.map Prod.fst, op.onEntries = true := by
    intro op member
    obtain ⟨event, here, rfl⟩ := List.mem_map.mp member
    exact entries event (List.mem_append_left _ here)
  have entries₂ : ∀ op ∈ since.map Prod.fst, op.onEntries = true := by
    intro op member
    obtain ⟨event, here, rfl⟩ := List.mem_map.mp member
    exact entries event (List.mem_append_right _ (List.mem_cons_of_mem _ here))
  obtain ⟨l₁, m₁, capacity₁⟩ := m.after_run entries₁ ran₁
  obtain ⟨l₂, effect, served⟩ :=
    m₁.effect (capacity₁ ▸ positive) (entries touch (by simp)) stepped
  obtain ⟨value, rest, rfl⟩ := effect.touched touches
  have zipped : (since.map Prod.fst).zip (since.map Prod.snd) = since := by
    rw [List.zip_map', List.map_id']
  obtain ⟨l', m', capacity, window⟩ := served.models.window (.here value rest)
    (by rw [served.capacity, capacity₁]; exact positive) entries₂ ran₂ (zipped.symm ▸ unused)
  rw [zipped, List.nil_append, ← capacity] at window
  exact ⟨l', m', window⟩

end Shard

end CacheAside
