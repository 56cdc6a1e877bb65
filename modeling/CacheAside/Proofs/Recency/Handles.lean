import CacheAside.Proofs.Recency.Sequence
import CacheAside.Proofs.Replay
import CacheAside.Recency.Op

namespace CacheAside.Recency

variable {K : Type}

/-- What an operation makes of a sequence of places, and what it answers. A handle that is no slot
    of the sequence names nothing, whether it is stale or was never issued. -/
inductive Acts : List (Slot × K) → Op K → Answer K → List (Slot × K) → Prop where
  | pushed {places : List (Slot × K)} {slot : Slot} {key : K} (fresh : slot ∉ slots places) :
      Acts places (.push key) (.issued slot) ((slot, key) :: places)
  | popped {front : List (Slot × K)} {slot : Slot} {key : K} :
      Acts (front ++ [(slot, key)]) .pop (.key (some key)) front
  | drained : Acts [] .pop (.key none) []
  | removed {front back : List (Slot × K)} {slot : Slot} {key : K} :
      Acts (front ++ (slot, key) :: back) (.remove slot) (.key (some key)) (front ++ back)
  | absent {places : List (Slot × K)} {slot : Slot} (outside : slot ∉ slots places) :
      Acts places (.remove slot) (.key none) places
  | touched {front back : List (Slot × K)} {slot : Slot} {key : K} :
      Acts (front ++ (slot, key) :: back) (.touch slot) (.flag true)
        ((slot, key) :: (front ++ back))
  | untouched {places : List (Slot × K)} {slot : Slot} (outside : slot ∉ slots places) :
      Acts places (.touch slot) (.flag false) places
  | read {places : List (Slot × K)} {slot : Slot} {key : K} (member : (slot, key) ∈ places) :
      Acts places (.key slot) (.key (some key)) places
  | unread {places : List (Slot × K)} {slot : Slot} (outside : slot ∉ slots places) :
      Acts places (.key slot) (.key none) places
  | cleared {places : List (Slot × K)} : Acts places .clear .done []

/-- All that can be read off an order shows these places. The walks are cut off after any number of
    steps, so they end where the places do. -/
structure Shows (l : Recency K) (places : List (Slot × K)) : Prop where
  distinct : (slots places).Nodup
  onward : ∀ steps, ((l.walk Node.older steps l.front).map fun (slot, node) =>
    (slot, node.key)) = places.take steps
  backward : ∀ steps, ((l.walk Node.newer steps l.back).map fun (slot, node) =>
    (slot, node.key)) = places.reverse.take steps
  keys : l.keys = places.map Prod.snd
  front : l.front = places.head?.map Prod.fst
  back : l.back = places.getLast?.map Prod.fst
  newest : l.newest? = places.head?.map Prod.snd
  oldest : l.oldest? = places.getLast?.map Prod.snd
  length : l.length = places.length
  isEmpty : l.isEmpty = places.isEmpty

/-- A run of an order along with the places it consists of: each operation returns, acts on the
    places and answers as it acts on a sequence, and the order shows what has become of them. -/
inductive Follows : Recency K → List (Slot × K) → List (Op K) → List (Answer K) →
    Recency K → List (Slot × K) → Prop where
  | nil {l : Recency K} {places : List (Slot × K)} : Follows l places [] [] l places
  | cons {l l' last : Recency K} {places places' rest : List (Slot × K)} {op : Op K}
      {answer : Answer K} {ops : List (Op K)} {answers : List (Answer K)}
      (stepped : l.step op = .ok (answer, l')) (acts : Acts places op answer places')
      (shows' : l'.Shows places') (follows : Follows l' places' ops answers last rest) :
      Follows l places (op :: ops) (answer :: answers) last rest

variable {l : Recency K} {places places' : List (Slot × K)} {slot : Slot} {op : Op K}
  {answer : Answer K}

theorem exists_place (member : slot ∈ slots places) :
    ∃ front key back, places = front ++ (slot, key) :: back := by
  obtain ⟨⟨slot, key⟩, place, rfl⟩ := List.mem_map.mp member
  obtain ⟨front, back, rfl⟩ := List.append_of_mem place
  exact ⟨front, key, back, rfl⟩

theorem Holds.shows (holds : l.Holds places) : l.Shows places where
  distinct := holds.distinct
  onward := by
    rw [holds.front]
    exact holds.chain.walk_older
  backward := by
    rw [holds.back]
    exact holds.chain.walk_newer
  keys := holds.keys
  front := holds.front.trans first_eq_head?
  back := holds.back.trans last_eq_getLast?
  newest := holds.newest?
  oldest := holds.oldest?
  length := holds.length
  isEmpty := by
    rw [Recency.isEmpty, Arena.isEmpty, holds.size]
    cases places <;> rfl

/-- A push alone makes the sequence longer, by one place. -/
theorem Acts.length_le (acts : Acts places op answer places') :
    places'.length ≤ places.length + 1 := by
  cases acts <;> simp <;> omega

theorem Holds.step (holds : l.Holds places) (op : Op K) :
    Yields (Word.bound ≤ places.length + 1)
      (fun (answer, l') => ∃ places', Acts places op answer places' ∧ l'.Holds places')
      (l.step op) := by
  cases op with
  | push key =>
    apply (holds.pushFront key).bind
    rintro ⟨slot, l'⟩ after
    exact ⟨_, .pushed (List.nodup_cons.mp after.distinct).1, after⟩
  | pop =>
    rcases List.eq_nil_or_concat' places with rfl | ⟨front, place, rfl⟩
    · simp only [Recency.step, holds.popBack_nil]
      exact ⟨[], .drained, holds⟩
    · obtain ⟨l', popped, after⟩ := holds.popBack
      simp only [Recency.step, popped]
      exact ⟨front, .popped, after⟩
  | remove slot =>
    by_cases member : slot ∈ slots places
    · obtain ⟨front, key, back, rfl⟩ := exists_place member
      obtain ⟨l', removed, after⟩ := holds.remove
      simp only [Recency.step, removed]
      exact ⟨front ++ back, .removed, after⟩
    · simp only [Recency.step, holds.remove_of_outside member]
      exact ⟨places, .absent member, holds⟩
  | touch slot =>
    by_cases member : slot ∈ slots places
    · obtain ⟨front, key, back, rfl⟩ := exists_place member
      obtain ⟨l', moved, after⟩ := holds.moveToFront
      simp only [Recency.step, moved]
      exact ⟨_, .touched, after⟩
    · simp only [Recency.step, holds.moveToFront_of_outside member]
      exact ⟨places, .untouched member, holds⟩
  | key slot =>
    by_cases member : slot ∈ slots places
    · obtain ⟨front, key, back, rfl⟩ := exists_place member
      have place : (slot, key) ∈ front ++ (slot, key) :: back := by simp
      simp only [Recency.step, holds.key? place]
      exact ⟨_, .read place, holds⟩
    · simp only [Recency.step, Recency.key?, holds.vacant member]
      exact ⟨places, .unread member, holds⟩
  | clear => exact ⟨[], .cleared, .clear l⟩

/-- No run is long enough to fill a word with places, since each operation adds one at most. -/
theorem Holds.run {ops : List (Op K)} (holds : l.Holds places)
    (room : places.length + ops.length < Word.bound) :
    ∃ answers last rest, replay Recency.step l ops = .ok (answers, last) ∧
      Follows l places ops answers last rest ∧ last.Holds rest := by
  induction ops generalizing l places with
  | nil => exact ⟨[], l, places, rfl, .nil, holds⟩
  | cons op ops ih =>
    rw [List.length_cons] at room
    obtain ⟨⟨answer, l'⟩, stepped, places', acts, after⟩ :=
      (holds.step op).returns (by omega)
    have longer := acts.length_le
    obtain ⟨answers, last, rest, ran, follows, holds'⟩ := ih after (by omega)
    exact ⟨answer :: answers, last, rest, replay_cons stepped ran,
      .cons stepped acts after.shows follows, holds'⟩

/-- An order is a sequence of places with distinct slots, whatever handles it is given: every run
    of operations returns and follows that of the sequence. -/
theorem run_follows_sequence (ops : List (Op K)) (short : ops.length < Word.bound) :
    ∃ answers last places, replay Recency.step (Recency.empty : Recency K) ops =
        .ok (answers, last) ∧
      Follows Recency.empty [] ops answers last places ∧ last.Shows places := by
  obtain ⟨answers, last, places, ran, follows, holds⟩ :=
    Holds.empty.run (by simpa using short)
  exact ⟨answers, last, places, ran, follows, holds.shows⟩

def recycling : List (Op Nat) :=
  [.push 10, .push 20, .push 30, .remove ⟨1⟩, .touch ⟨1⟩, .push 40, .touch ⟨0⟩, .key ⟨1⟩,
    .remove ⟨7⟩, .pop, .remove ⟨2⟩]

theorem recycling_follows_sequence :
    recycling.length < Word.bound ∧
      ∃ last, replay Recency.step Recency.empty recycling = .ok ([.issued ⟨0⟩, .issued ⟨1⟩,
          .issued ⟨2⟩, .key (some 20), .flag false, .issued ⟨1⟩, .flag true, .key (some 40),
          .key none, .key (some 30), .key none], last) ∧
        Follows Recency.empty [] recycling [.issued ⟨0⟩, .issued ⟨1⟩, .issued ⟨2⟩,
          .key (some 20), .flag false, .issued ⟨1⟩, .flag true, .key (some 40), .key none,
          .key (some 30), .key none] last [(⟨0⟩, 10), (⟨1⟩, 40)] ∧
        last.Shows [(⟨0⟩, 10), (⟨1⟩, 40)] := by
  have short : recycling.length < Word.bound := by decide
  obtain ⟨answers, last, places, ran, follows, shows'⟩ := run_follows_sequence recycling short
  have computed : ∃ last, replay Recency.step Recency.empty recycling = .ok ([.issued ⟨0⟩,
      .issued ⟨1⟩, .issued ⟨2⟩, .key (some 20), .flag false, .issued ⟨1⟩, .flag true,
      .key (some 40), .key none, .key (some 30), .key none], last) ∧
      last.walk Node.older 3 last.front =
        [(⟨0⟩, ⟨10, none, some ⟨1⟩⟩), (⟨1⟩, ⟨40, some ⟨0⟩, none⟩)] := ⟨_, rfl, by decide⟩
  obtain ⟨_, same, walked⟩ := computed
  cases ran.symm.trans same
  have onward := shows'.onward 3
  rw [walked] at onward
  have whole : places.length ≤ 3 := by
    have taken := congrArg List.length onward
    simp at taken
    omega
  rw [List.take_of_length_le whole] at onward
  subst onward
  exact ⟨short, last, ran, follows, shows'⟩

end CacheAside.Recency
