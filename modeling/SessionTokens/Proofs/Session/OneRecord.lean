import SessionTokens.Proofs.Session.Interleaving

/-!
# One record for each session

However calls are interleaved, a session has one record in the store at most, or
one rotation on its way from the old record to the new one.  What carries the
induction is where each refresh token is: drawn and not stored yet, in the
store, or taken out of it by one call; no token is at two of these places.
-/

namespace SessionTokens

namespace Traffic

def known (traffic : Traffic) : List String := traffic.lineage.map Prod.fst

/-- How often a token is drawn, stored or taken. -/
def places (traffic : Traffic) (token : String) : Nat :=
  traffic.store.memory.tokens.count token +
    traffic.tasks.countP (fun task => task.taken = some token) +
    traffic.tasks.countP (fun task => task.drawn? = some token)

/-- What every turn preserves. -/
structure Orderly (engine : SessionEngine) (traffic : Traffic) : Prop where
  whole : traffic.store.faults = []
  sound : ∀ task ∈ traffic.tasks, task.Sound engine
  stored : ∀ token ∈ traffic.store.memory.tokens, token ∈ traffic.known
  taken : ∀ task ∈ traffic.tasks, ∀ token, task.taken = some token → token ∈ traffic.known
  drawn : ∀ task ∈ traffic.tasks, ∀ token, task.drawn? = some token → token ∉ traffic.known
  rooted : ∀ token first, traffic.first? token = some first → first ∈ traffic.known
  place : ∀ token, traffic.places token ≤ 1
  load : ∀ first, traffic.load first ≤ 1

end Traffic

/-- What holds of every session and every refresh token while calls are under way. -/
structure OneRecord (engine : SessionEngine) (traffic : Traffic) : Prop where
  /-- Every record and every rotation between its two operations belongs to a session. -/
  stored : ∀ token ∈ traffic.store.memory.tokens, ∃ first, traffic.first? token = some first
  held : ∀ task ∈ traffic.tasks, ∀ token, task.held? = some token →
    ∃ first, traffic.first? token = some first
  /-- The records and such rotations of a session are one at most. -/
  load : ∀ first, traffic.load first ≤ 1
  /-- Two tokens of one session are never in the store. -/
  apart : ∀ left ∈ traffic.store.memory.tokens, ∀ right ∈ traffic.store.memory.tokens,
    traffic.first? left = traffic.first? right → left = right
  /-- Of all rotations of a token one at most obtains its record. -/
  obtained : ∀ token,
    traffic.tasks.countP (fun task => task.Rotates engine token ∧ task.taken.isSome = true) ≤ 1
  /-- Of all rotations of a token one at most returns a pair. -/
  paired : ∀ token,
    traffic.tasks.countP (fun task =>
      task.Rotates engine token ∧ (task.answer?.bind Answer.pair?).isSome = true) ≤ 1
  /-- A rotation that asked the store and obtained nothing is refused. -/
  refused : ∀ task ∈ traffic.tasks, task.asked = true → task.taken = none →
    task.answer?.bind Answer.refusal? = some .refreshTokenNotFound

variable {engine : SessionEngine} {traffic next : Traffic}

/-! ## Counting -/

theorem MemoryStore.countP_tokens_delete (store : MemoryStore) (token : String)
    (holds : String → Bool) :
    store.tokens.countP holds =
      (store.delete token).tokens.countP holds +
        if holds token then store.tokens.count token else 0 := by
  rw [tokens_delete]
  induction store.tokens with
  | nil => simp
  | cons other rest ih =>
      by_cases same : other = token
      · subst same
        by_cases held : holds other = true
        · simp [held] at ih ⊢
          omega
        · simpa [held] using ih
      · by_cases held : holds token = true
        · simp [same, held, List.countP_cons] at ih ⊢
          omega
        · simp [same, held, List.countP_cons] at ih ⊢
          omega

theorem MemoryStore.count_tokens_delete (store : MemoryStore) (token other : String) :
    (store.delete token).tokens.count other =
      if token = other then 0 else store.tokens.count other := by
  rw [tokens_delete]
  by_cases same : token = other
  · subst same
    rw [if_pos rfl]
    exact List.count_eq_zero.mpr (by simp)
  · rw [if_neg same]
    exact List.count_filter (by simpa using Ne.symm same)

theorem eq_of_countP_le_one {α : Type} {items : List α} {holds : α → Bool} {left right : α}
    (few : items.countP holds ≤ 1) (leftIn : left ∈ items) (rightIn : right ∈ items)
    (leftHolds : holds left = true) (rightHolds : holds right = true) : left = right := by
  have leftKept := List.mem_filter.mpr ⟨leftIn, leftHolds⟩
  have rightKept := List.mem_filter.mpr ⟨rightIn, rightHolds⟩
  rw [List.countP_eq_length_filter] at few
  generalize items.filter holds = kept at few leftKept rightKept
  match kept with
  | [] => cases leftKept
  | [single] => rw [List.mem_singleton.mp leftKept, List.mem_singleton.mp rightKept]
  | _ :: _ :: _ => simp at few

/-- A task of a list and the list with another task in its place, around the same tasks. -/
theorem exists_split_of_getElem? {tasks : List Task} {index : Nat} {task : Task}
    (found : tasks[index]? = some task) (next : Task) :
    ∃ front back, tasks = front ++ task :: back ∧ tasks.set index next = front ++ next :: back := by
  induction tasks generalizing index with
  | nil => simp at found
  | cons head rest ih =>
      cases index with
      | zero =>
          simp only [List.getElem?_cons_zero, Option.some.injEq] at found
          subst found
          exact ⟨[], rest, rfl, rfl⟩
      | succ index =>
          obtain ⟨front, back, split, changed⟩ := ih (by simpa using found)
          exact ⟨head :: front, back, by rw [split, List.cons_append], by simp [changed]⟩

/-! ## Turns -/

namespace Traffic

theorem first?_isSome_iff {token : String} :
    (∃ first, traffic.first? token = some first) ↔ token ∈ traffic.known := by
  rw [first?, known]
  constructor
  · rintro ⟨first, found⟩
    obtain ⟨front, back, split, -⟩ := List.lookup_eq_some_iff.mp found
    simp [split]
  · intro inside
    cases found : traffic.lineage.lookup token with
    | some first => exact ⟨first, rfl⟩
    | none =>
        obtain ⟨entry, present, same⟩ := List.mem_map.mp inside
        have differs := List.lookup_eq_none_iff.mp found entry present
        simp [same] at differs

theorem load_eq (first : String) :
    traffic.load first =
      traffic.store.memory.tokens.countP (fun token => traffic.lineage.lookup token = some first) +
        traffic.tasks.countP
          (fun task => task.held?.bind (traffic.lineage.lookup ·) = some first) := rfl

theorem mem_around {front back : List Task} {next other : Task}
    (inside : other ∈ front ++ next :: back) : other = next ∨ other ∈ front ∨ other ∈ back := by
  rcases List.mem_append.mp inside with inFront | inRest
  · exact .inr (.inl inFront)
  · rcases List.mem_cons.mp inRest with same | inBack
    · exact .inl same
    · exact .inr (.inr inBack)

theorem forall_mem_replace {holds : Task → Prop} {front back : List Task} {task next : Task}
    (always : ∀ other ∈ front ++ task :: back, holds other) (here : holds next) :
    ∀ other ∈ front ++ next :: back, holds other := by
  intro other inside
  rcases mem_around inside with rfl | inFront | inBack
  · exact here
  · exact always other (by simp [inFront])
  · exact always other (by simp [inBack])

section Extended

variable {lineage : List (String × String)} {token root : String}

theorem lookup_extended {other : String} (differs : other ≠ token) :
    ((token, root) :: lineage).lookup other = lineage.lookup other := by
  rw [List.lookup_cons, beq_false_of_ne differs]

theorem countP_tokens_extended {tokens : List String} (absent : token ∉ tokens) (first : String) :
    tokens.countP (fun other => ((token, root) :: lineage).lookup other = some first) =
      tokens.countP (fun other => lineage.lookup other = some first) := by
  refine List.countP_congr fun other inside => ?_
  have differs : other ≠ token := fun same => absent (same ▸ inside)
  rw [lookup_extended differs]

theorem countP_held_extended {tasks : List Task}
    (unheld : ∀ task ∈ tasks, task.held? ≠ some token) (first : String) :
    tasks.countP
        (fun task => task.held?.bind (((token, root) :: lineage).lookup ·) = some first) =
      tasks.countP (fun task => task.held?.bind (lineage.lookup ·) = some first) := by
  refine List.countP_congr fun task inside => ?_
  cases held : task.held? with
  | none => rfl
  | some other =>
      have differs : other ≠ token := fun same => unheld task inside (same ▸ held)
      rw [Option.bind_some, Option.bind_some, lookup_extended differs]

end Extended

namespace Orderly

/-- A token that was never stored or drawn is nowhere. -/
theorem places_eq_zero (orderly : traffic.Orderly engine) {token : String}
    (unused : traffic.Unused token) : traffic.places token = 0 := by
  have absent : traffic.store.memory.tokens.count token = 0 :=
    List.count_eq_zero.mpr fun inside => unused.1 (orderly.stored token inside)
  have untaken : traffic.tasks.countP (fun task => task.taken = some token) = 0 := by
    refine List.countP_eq_zero.mpr fun task inside taken => unused.1 ?_
    exact orderly.taken task inside token (of_decide_eq_true taken)
  have undrawn : traffic.tasks.countP (fun task => task.drawn? = some token) = 0 := by
    refine List.countP_eq_zero.mpr fun task inside drawn => ?_
    exact unused.2 task inside (of_decide_eq_true drawn)
  rw [places, absent, untaken, undrawn]

/-- Only a token that was stored is the first of a session. -/
theorem load_eq_zero (orderly : traffic.Orderly engine) {token : String}
    (unknown : token ∉ traffic.known) : traffic.load token = 0 := by
  have never (other : String) : traffic.first? other ≠ some token :=
    fun found => unknown (orderly.rooted other token found)
  rw [Traffic.load, Nat.add_eq_zero_iff, List.countP_eq_zero, List.countP_eq_zero]
  constructor
  · intro other inside found
    exact never other (of_decide_eq_true found)
  · intro task inside found
    obtain ⟨other, held, first⟩ := Option.bind_eq_some_iff.mp (of_decide_eq_true found)
    exact never other first

theorem start (orderly : traffic.Orderly engine) (call : Call) :
    Orderly engine { traffic with tasks := traffic.tasks ++ [{ call }] } where
  whole := orderly.whole
  sound task inside := by
    rcases List.mem_append.mp inside with old | new
    · exact orderly.sound task old
    · rw [List.mem_singleton.mp new]
      exact ⟨rfl, rfl⟩
  stored := orderly.stored
  taken task inside token taken := by
    rcases List.mem_append.mp inside with old | new
    · exact orderly.taken task old token taken
    · rw [List.mem_singleton.mp new] at taken
      cases taken
  drawn task inside token drawn := by
    rcases List.mem_append.mp inside with old | new
    · exact orderly.drawn task old token drawn
    · rw [List.mem_singleton.mp new] at drawn
      cases drawn
  rooted := orderly.rooted
  place token := by
    have kept := orderly.place token
    simpa [places, List.countP_append, List.countP_cons, Task.drawn?] using kept
  load first := by
    have kept := orderly.load first
    rw [load_eq] at kept ⊢
    simpa [List.countP_append, List.countP_cons, Task.held?] using kept

variable {front back : List Task} {task next : Task} {store : Store}

/-- A step that moves no token. -/
theorem quiet (orderly : traffic.Orderly engine) (split : traffic.tasks = front ++ task :: back)
    (whole : store.faults = []) (sound : next.Sound engine) (drawn : task.drawn? = none)
    (nextDrawn : next.drawn? = none) (taken : next.taken = task.taken)
    (held : next.held? = task.held? ∨ next.held? = none)
    (fewer : store.memory.tokens.Sublist traffic.store.memory.tokens) :
    Orderly engine ⟨store, front ++ next :: back, traffic.lineage⟩ := by
  obtain ⟨before, tasks, lineage⟩ := traffic
  dsimp only at split fewer
  subst split
  refine
    { whole
      sound := forall_mem_replace orderly.sound sound
      stored := fun token inside => orderly.stored token (fewer.subset inside)
      taken := forall_mem_replace orderly.taken ?_
      drawn := forall_mem_replace orderly.drawn ?_
      rooted := orderly.rooted
      place := fun token => ?_
      load := fun first => ?_ }
  · rw [taken]
    exact orderly.taken task (by simp)
  · simp [nextDrawn]
  · have kept := orderly.place token
    have count := fewer.count_le token
    simp only [places, List.countP_append, List.countP_cons, taken, drawn, nextDrawn] at kept ⊢
    omega
  · have kept := orderly.load first
    have count := fewer.countP_le (p := fun token => lineage.lookup token = some first)
    simp only [load_eq, List.countP_append, List.countP_cons] at kept ⊢
    rcases held with held | held
    · rw [held]
      omega
    · simp only [held, Option.bind_none, reduceCtorEq, decide_false, Bool.false_eq_true, if_false]
      omega

/-- A step that takes a token out of the store. -/
theorem took (orderly : traffic.Orderly engine) (split : traffic.tasks = front ++ task :: back)
    (whole : store.faults = []) (sound : next.Sound engine) {token : String}
    (drawn : task.drawn? = none) (nextDrawn : next.drawn? = none) (untaken : task.taken = none)
    (taken : next.taken = some token) (held : next.held? = some token)
    (found : token ∈ traffic.store.memory.tokens)
    (memory : store.memory = traffic.store.memory.delete token) :
    Orderly engine ⟨store, front ++ next :: back, traffic.lineage⟩ := by
  obtain ⟨before, tasks, lineage⟩ := traffic
  dsimp only at split found memory
  subst split
  have unheld := Task.held?_of_untaken untaken
  have present : 1 ≤ before.memory.tokens.count token := List.one_le_count_iff.mpr found
  refine
    { whole
      sound := forall_mem_replace orderly.sound sound
      stored := fun other inside => ?_
      taken := forall_mem_replace orderly.taken ?_
      drawn := forall_mem_replace orderly.drawn ?_
      rooted := orderly.rooted
      place := fun other => ?_
      load := fun first => ?_ }
  · rw [memory] at inside
    exact orderly.stored other (MemoryStore.mem_tokens_delete.mp inside).1
  · rw [taken]
    rintro other ⟨⟩
    exact orderly.stored token found
  · simp [nextDrawn]
  -- The token leaves the store and comes into the hands of the call: its count stays.
  · have kept := orderly.place other
    simp only [places, List.countP_append, List.countP_cons, taken, untaken, drawn, nextDrawn,
      memory, MemoryStore.count_tokens_delete] at kept ⊢
    by_cases same : token = other
    · subst same
      simp only [if_true, reduceCtorEq, decide_false, decide_true, Bool.false_eq_true,
        if_false] at kept ⊢
      omega
    · simp only [same, if_false, Option.some.injEq, reduceCtorEq, decide_false,
        Bool.false_eq_true] at kept ⊢
      omega
  · have kept := orderly.load first
    have deleted := before.memory.countP_tokens_delete token
      fun token => lineage.lookup token = some first
    simp only [load_eq, List.countP_append, List.countP_cons, unheld, held, memory] at kept ⊢
    by_cases same : lineage.lookup token = some first
    · simp only [same, Option.bind_none, Option.bind_some, reduceCtorEq, decide_false,
        Bool.false_eq_true, if_false, decide_true, if_true] at kept deleted ⊢
      omega
    · simp only [same, Option.bind_none, Option.bind_some, reduceCtorEq, decide_false,
        Bool.false_eq_true, if_false] at kept deleted ⊢
      omega

/-- A step that draws a token. -/
theorem drew (orderly : traffic.Orderly engine) (split : traffic.tasks = front ++ task :: back)
    (whole : store.faults = []) (sound : next.Sound engine) {token : String}
    (drawn : task.drawn? = none) (nextDrawn : next.drawn? = some token)
    (taken : next.taken = task.taken) (held : next.held? = task.held?)
    (unused : traffic.Unused token) (memory : store.memory = traffic.store.memory) :
    Orderly engine ⟨store, front ++ next :: back, traffic.lineage⟩ := by
  obtain ⟨before, tasks, lineage⟩ := traffic
  dsimp only at split memory
  subst split
  have nowhere := orderly.places_eq_zero unused
  refine
    { whole
      sound := forall_mem_replace orderly.sound sound
      stored := fun other inside => orderly.stored other (memory ▸ inside)
      taken := forall_mem_replace orderly.taken ?_
      drawn := forall_mem_replace orderly.drawn ?_
      rooted := orderly.rooted
      place := fun other => ?_
      load := fun first => ?_ }
  · rw [taken]
    exact orderly.taken task (by simp)
  · rw [nextDrawn]
    rintro other ⟨⟩
    exact unused.1
  · have kept := orderly.place other
    by_cases same : token = other
    · subst same
      simp only [places, List.countP_append, List.countP_cons, taken, drawn, nextDrawn, memory,
        decide_true, if_true, reduceCtorEq, decide_false, Bool.false_eq_true,
        if_false] at nowhere ⊢
      omega
    · simp only [places, List.countP_append, List.countP_cons, taken, drawn, nextDrawn,
        memory, same, Option.some.injEq, reduceCtorEq, decide_false, Bool.false_eq_true,
        if_false] at kept ⊢
      exact kept
  · have kept := orderly.load first
    simpa only [load_eq, List.countP_append, List.countP_cons, held, memory] using kept

/-! A step that puts a drawn token into the store is told in parts. -/

/-- A rotation hands its session on, any other call opens one. -/
theorem exists_root (orderly : traffic.Orderly engine) (inside : task ∈ traffic.tasks)
    (token : String) :
    ∃ root, (task.taken.bind traffic.first?).getD token = root ∧
      (task.taken = none ∧ root = token ∨ task.taken.bind traffic.first? = some root) := by
  cases taken : task.taken with
  | none => exact ⟨token, rfl, .inl ⟨rfl, rfl⟩⟩
  | some earlier =>
      obtain ⟨root, found⟩ := first?_isSome_iff.mpr (orderly.taken task inside earlier taken)
      exact ⟨root, by simp [found], .inr found⟩

/-- No two calls draw one token. -/
theorem undrawn_around (orderly : traffic.Orderly engine)
    (split : traffic.tasks = front ++ task :: back) {token : String}
    (drawn : task.drawn? = some token) {other : Task} (around : other ∈ front ∨ other ∈ back) :
    other.drawn? ≠ some token := by
  intro drawnToo
  have place := orderly.place token
  simp only [places, split, List.countP_append, List.countP_cons, drawn, decide_true,
    if_true] at place
  rcases around with inFront | inBack
  · have counted : 0 < front.countP (fun other => other.drawn? = some token) :=
      List.countP_pos_iff.mpr ⟨other, inFront, decide_eq_true drawnToo⟩
    omega
  · have counted : 0 < back.countP (fun other => other.drawn? = some token) :=
      List.countP_pos_iff.mpr ⟨other, inBack, decide_eq_true drawnToo⟩
    omega

theorem place_deposited (orderly : traffic.Orderly engine)
    (split : traffic.tasks = front ++ task :: back) {token : String}
    (drawn : task.drawn? = some token) (nextDrawn : next.drawn? = none)
    (taken : next.taken = task.taken)
    (tokens : store.memory.tokens = token :: (traffic.store.memory.delete token).tokens)
    (lineage : List (String × String)) (other : String) :
    places ⟨store, front ++ next :: back, lineage⟩ other ≤ 1 := by
  have past := orderly.place other
  simp only [places, split, List.countP_append, List.countP_cons, taken, drawn, nextDrawn,
    tokens, List.count_cons, MemoryStore.count_tokens_delete] at past ⊢
  by_cases same : token = other
  · subst same
    simp only [if_true, beq_self_eq_true, decide_true, reduceCtorEq, decide_false,
      Bool.false_eq_true, if_false] at past ⊢
    omega
  · simp only [same, beq_false_of_ne same, Option.some.injEq, reduceCtorEq, decide_false,
      Bool.false_eq_true, if_false] at past ⊢
    omega

theorem load_deposited (orderly : traffic.Orderly engine)
    (split : traffic.tasks = front ++ task :: back) {token root : String}
    (unknown : token ∉ traffic.known) (held : task.held? = task.taken)
    (nextHeld : next.held? = none)
    (tokens : store.memory.tokens = token :: (traffic.store.memory.delete token).tokens)
    (origin : task.taken = none ∧ root = token ∨ task.taken.bind traffic.first? = some root)
    (first : String) :
    Traffic.load ⟨store, front ++ next :: back, (token, root) :: traffic.lineage⟩ first ≤ 1 := by
  have unheld (other : Task) (inside : other ∈ traffic.tasks) : other.held? ≠ some token :=
    fun held => unknown (orderly.taken other inside token (Task.taken_of_held? held))
  have frontApart : ∀ other ∈ front, other.held? ≠ some token :=
    fun other inside => unheld other (by simp [split, inside])
  have backApart : ∀ other ∈ back, other.held? ≠ some token :=
    fun other inside => unheld other (by simp [split, inside])
  have absent : token ∉ (traffic.store.memory.delete token).tokens := by
    simp [MemoryStore.tokens_delete]
  have fewer := (MemoryStore.tokens_delete_sublist traffic.store.memory token).countP_le
    (p := fun other => traffic.lineage.lookup other = some first)
  have past := orderly.load first
  have empty := orderly.load_eq_zero unknown
  simp only [load_eq, split, List.countP_append, List.countP_cons, tokens, nextHeld, held,
    countP_tokens_extended absent, countP_held_extended frontApart,
    countP_held_extended backApart, List.lookup_cons_self, Option.bind_none, reduceCtorEq,
    decide_false, Bool.false_eq_true, if_false, Option.some.injEq] at past empty ⊢
  -- A session that opens now had no load; one that is handed on loses the rotation that stored.
  rcases origin with ⟨-, opened⟩ | handed
  · by_cases here : root = first
    · obtain rfl : token = first := opened ▸ here
      simp only [here, decide_true, if_true]
      omega
    · simp only [here, decide_false, Bool.false_eq_true, if_false]
      omega
  · have carried : (task.taken.bind (traffic.lineage.lookup ·)) = some root := handed
    simp only [carried, Option.some.injEq] at past
    omega

theorem deposited (orderly : traffic.Orderly engine)
    (split : traffic.tasks = front ++ task :: back) (whole : store.faults = [])
    (sound : next.Sound engine) {token : String} (drawn : task.drawn? = some token)
    (nextDrawn : next.drawn? = none) (taken : next.taken = task.taken)
    (held : task.held? = task.taken) (nextHeld : next.held? = none)
    (tokens : store.memory.tokens = token :: (traffic.store.memory.delete token).tokens) :
    Orderly engine ⟨store, front ++ next :: back,
      (token, (task.taken.bind traffic.first?).getD token) :: traffic.lineage⟩ := by
  have inside : task ∈ traffic.tasks := by simp [split]
  have unknown : token ∉ traffic.known := orderly.drawn task inside token drawn
  obtain ⟨root, same, origin⟩ := orderly.exists_root inside token
  rw [same]
  have old : ∀ other ∈ front ++ task :: back, other ∈ traffic.tasks :=
    fun other around => split ▸ around
  refine
    { whole
      sound := forall_mem_replace (fun other around => orderly.sound other (old other around)) sound
      stored := fun other inside => ?_
      taken := fun other around earlier otherTaken => ?_
      drawn := fun other around late lateDrawn => ?_
      rooted := fun other first found => ?_
      place := orderly.place_deposited split drawn nextDrawn taken tokens _
      load := orderly.load_deposited split unknown held nextHeld tokens origin }
  · rw [tokens] at inside
    rcases List.mem_cons.mp inside with rfl | kept
    · exact List.mem_cons_self
    · have earlier := (MemoryStore.mem_tokens_delete.mp kept).1
      exact List.mem_cons_of_mem _ (orderly.stored other earlier)
  · refine List.mem_cons_of_mem _ ?_
    rcases mem_around around with rfl | inFront | inBack
    · exact orderly.taken task inside earlier (taken ▸ otherTaken)
    · exact orderly.taken other (old other (by simp [inFront])) earlier otherTaken
    · exact orderly.taken other (old other (by simp [inBack])) earlier otherTaken
  · have undrawn : late ≠ token ∧ late ∉ traffic.known := by
      rcases mem_around around with rfl | beside
      · cases nextDrawn.symm.trans lateDrawn
      · refine ⟨fun same => ?_, orderly.drawn other (old other ?_) late lateDrawn⟩
        · exact orderly.undrawn_around split drawn beside (same ▸ lateDrawn)
        · rcases beside with inFront | inBack
          · simp [inFront]
          · simp [inBack]
    simpa [known] using undrawn
  · by_cases here : other = token
    · obtain rfl : root = first := by simpa [first?, here] using found
      rcases origin with ⟨-, rfl⟩ | handed
      · exact List.mem_cons_self
      · obtain ⟨earlier, -, found⟩ := Option.bind_eq_some_iff.mp handed
        exact List.mem_cons_of_mem _ (orderly.rooted earlier root found)
    · have before : traffic.first? other = some first := by
        rw [first?, ← lookup_extended here]
        exact found
      exact List.mem_cons_of_mem _ (orderly.rooted other first before)

/-- Every turn preserves that each token is at one place. -/
theorem turn (orderly : traffic.Orderly engine) {turn : Turn} {later : Traffic}
    (played : traffic.turn? engine turn = some later) : later.Orderly engine := by
  cases turn with
  | start call =>
      cases played
      exact orderly.start call
  | step index now =>
      obtain ⟨task, found, played⟩ := Option.bind_eq_some_iff.mp played
      obtain ⟨advance, whole, sound⟩ := SessionEngine.step_advance orderly.whole now
        (orderly.sound task (List.mem_of_getElem? found))
      generalize engine.step now task traffic.store = result at played advance whole sound
      obtain ⟨next, ⟨backend, memory, faults⟩⟩ := result
      obtain ⟨front, back, split, changed⟩ := exists_split_of_getElem? found next
      dsimp only at played advance whole sound
      split at played
      · next fresh =>
          cases played
          rw [changed]
          cases advance with
          | quiet drawn nextDrawn taken held fewer =>
              rw [lineageAfter, drawn]
              exact orderly.quiet split whole sound drawn nextDrawn taken held fewer
          | took drawn nextDrawn untaken taken held found =>
              rw [lineageAfter, drawn]
              exact orderly.took split whole sound drawn nextDrawn untaken taken held found rfl
          | drew drawn nextDrawn taken held =>
              rw [lineageAfter, drawn]
              exact orderly.drew split whole sound drawn nextDrawn taken held
                (fresh _ nextDrawn) rfl
          | stored drawn nextDrawn taken held nextHeld =>
              rw [lineageAfter, drawn]
              exact orderly.deposited split whole sound drawn nextDrawn taken held nextHeld rfl
      · cases played

/-- Turns in any order preserve it. -/
theorem turns (orderly : traffic.Orderly engine) {turns : List Turn} {later : Traffic}
    (played : turns.foldlM (Traffic.turn? engine) traffic = some later) :
    later.Orderly engine := by
  induction turns generalizing traffic with
  | nil =>
      cases played
      exact orderly
  | cons turn rest ih =>
      rw [List.foldlM_cons] at played
      obtain ⟨next, first, rest⟩ := Option.bind_eq_some_iff.mp played
      exact ih (orderly.turn first) rest

/-- An empty store without calls is in order. -/
theorem empty (engine : SessionEngine) : Orderly engine {} where
  whole := rfl
  sound _ inside := by cases inside
  stored _ inside := by cases inside
  taken _ inside := by cases inside
  drawn _ inside := by cases inside
  rooted _ _ found := by cases found
  place _ := Nat.zero_le 1
  load _ := Nat.zero_le 1

/-- Of the rotations of a token that hold records one at most holds one. -/
theorem countP_holding_le_one (orderly : traffic.Orderly engine) {holds : Task → Bool}
    (token : String) (holding : ∀ task ∈ traffic.tasks, holds task = true →
      task.Rotates engine token ∧ task.Holding engine) :
    traffic.tasks.countP holds ≤ 1 := by
  have taken : traffic.tasks.countP holds ≤
      traffic.tasks.countP (fun task => task.taken = some token) := by
    refine List.countP_mono_left fun task inside held => ?_
    obtain ⟨rotates, other, -, taken, presents⟩ := holding task inside held
    have same := Option.some.inj (presents.2.symm.trans rotates.2)
    simp [taken, same]
  have place := orderly.place token
  rw [places] at place
  omega

theorem oneRecord (orderly : traffic.Orderly engine) : OneRecord engine traffic where
  stored token inside := first?_isSome_iff.mpr (orderly.stored token inside)
  held task inside token held :=
    first?_isSome_iff.mpr (orderly.taken task inside token (Task.taken_of_held? held))
  load := orderly.load
  apart left leftIn right rightIn same := by
    obtain ⟨first, found⟩ := first?_isSome_iff.mpr (orderly.stored left leftIn)
    have few := orderly.load first
    rw [Traffic.load] at few
    refine eq_of_countP_le_one (Nat.le_trans (Nat.le_add_right _ _) few) leftIn rightIn ?_ ?_
    · simp [found]
    · simp [← same, found]
  obtained token := by
    refine orderly.countP_holding_le_one token fun task inside obtained => ?_
    obtain ⟨rotates, taken⟩ := of_decide_eq_true obtained
    exact ⟨rotates, (orderly.sound task inside).holding taken⟩
  paired token := by
    refine orderly.countP_holding_le_one token fun task inside paired => ?_
    obtain ⟨rotates, pair⟩ := of_decide_eq_true paired
    exact ⟨rotates, (orderly.sound task inside).holding_of_pair? rotates.1 pair⟩
  refused task inside := (orderly.sound task inside).refusal

end Orderly

end Traffic

/--
However calls are interleaved, as long as drawn tokens are fresh: a session has
one record in the store or one rotation between taking and storing at most, and
of all rotations of one token one at most obtains its record, while every other
one that asked the store finds nothing.
-/
theorem sessions_keep_one_record (engine : SessionEngine) (turns : List Turn) (traffic : Traffic)
    (played : engine.interleave? turns = some traffic) : OneRecord engine traffic :=
  ((Traffic.Orderly.empty engine).turns played).oneRecord

/-- Two rotations of one token race with a logout of its successor. -/
def raceTurns : List Turn :=
  let token (octet : UInt8) := refreshTokenOf (sampleDraw octet)
  let now (second : Int) : Instant := ⟨1700000000 + second, 0⟩
  [.start (.generateTokenPair (sampleDraw 0) (.string "alice")),
    .step 0 (now 0), .step 0 (now 0), .step 0 (now 1),
    .start (.refreshTokenPair (sampleDraw 1) (token 0)),
    .start (.refreshTokenPair (sampleDraw 2) (token 0)),
    .step 2 (now 7), .step 1 (now 5), .step 1 (now 6), .step 2 (now 8),
    .step 1 (now 4), .step 1 (now 9), .step 1 (now 9),
    .start (.revoke (token 1)), .step 3 (now 9)]

theorem sessions_keep_one_record_raced :
    ∃ traffic, sampleEngine.interleave? raceTurns = some traffic ∧
      traffic.load (refreshTokenOf (sampleDraw 0)) = 1 ∧ OneRecord sampleEngine traffic := by
  have loaded : (sampleEngine.interleave? raceTurns).map
      (·.load (refreshTokenOf (sampleDraw 0))) = some 1 := by
    decide +kernel
  obtain ⟨traffic, played, load⟩ := Option.map_eq_some_iff.mp loaded
  exact ⟨traffic, played, load, sessions_keep_one_record sampleEngine raceTurns traffic played⟩

end SessionTokens
