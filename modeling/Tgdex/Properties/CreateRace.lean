import Tgdex.Items.Commits
import Tgdex.Properties.SharedState

namespace Tgdex.Properties

open Tgdex.Data Tgdex.Java Tgdex.Effects Tgdex.Elastic Tgdex.Query Tgdex.Items

/-! # Creating items while others do

Every handler decides on its own lookup here.  A request is outstanding on an
id from its lookup of the id without a hit to its write under the id. -/

variable {server : Server} {store : Index} {statics : Statics}

abbrev ItemPool := Pool Call Reply Statics Index (List Outcome)

/-- The request has looked the id up, and its next call writes under it. -/
def Outstanding (id : String) : Phase Call Reply Statics (List Outcome) → Prop
  | .running task => StartsWriting task id
  | .executed call reply resume | .waiting call reply resume =>
      ∃ statics, StartsWriting (resume reply (receive call reply statics)) id

/-- A write takes effect while no other request is outstanding on its id. -/
def WritesAlone (pool : ItemPool) : Label ItemRequest Choice → Prop
  | .execute id _ => ∀ task written, pool.phase id = some (.running task) → StartsWriting task written →
      ∀ other phase, other ≠ id → pool.phase other = some phase → ¬Outstanding written phase
  | _ => True

def Deletes (key : String) (pool : ItemPool) : Label ItemRequest Choice → Prop
  | .execute id _ => ∃ resume, pool.phase id = some (.running (.await (.delete key) resume))
  | _ => False

structure Consistent (pool : ItemPool) : Prop where
  indexed : Indexed pool.store
  disciplined : pool.Always Disciplined
  fresh : ∀ id phase written, pool.phase id = some phase → Outstanding written phase → written ∉ pool.store

theorem initial_consistent (indexed : Indexed store) (statics : Statics) :
    Consistent (Pool.initial store statics : ItemPool) where
  indexed := indexed
  disciplined := Pool.initial_always store statics
  fresh := by
    intro id phase written present
    simp [Pool.initial] at present

theorem phase_setPhase {pool : ItemPool} {id other : Nat} {phase moved : Phase Call Reply Statics (List Outcome)}
    (present : (pool.setPhase id moved).phase other = some phase) :
    (other = id ∧ phase = moved) ∨ (other ≠ id ∧ pool.phase other = some phase) := by
  by_cases same : other = id
  · subst same
    rw [Pool.setPhase_phase_self] at present
    exact .inl ⟨rfl, (Option.some.inj present).symm⟩
  · rw [Pool.setPhase_phase_other pool id moved same] at present
    exact .inr ⟨same, present⟩

/-- A lookup that leaves a request outstanding has found nothing. -/
theorem fresh_of_execute {engine : Engine} {store : Index} (indexed : Indexed store) {call : Call}
    {resume : Reply call → Statics → Handler} (disciplined : Disciplined call resume) {choice : Choice}
    {statics : Statics} {written : String}
    (writes : StartsWriting (resume (engine.execute call choice store).1
      (receive call (engine.execute call choice store).1 statics)) written) :
    written ∉ store ∧ (engine.execute call choice store).2 = store := by
  obtain ⟨rfl, none, answer, replied⟩ := disciplined.looksUp _ _ _ writes
  cases choice with
  | fails reason => cases replied
  | answers ranking aggregate generatedId =>
      refine ⟨fun present => ?_, rfl⟩
      obtain ⟨-, count⟩ :=
        answered_head engine (.leaf (.term "id.keyword" written)) store ranking aggregate statics
      exact hit_of_mem indexed present (counted_zero.mp (count.symm.trans none))

theorem fresh_of_effect {before after : Index} {call : Call} {written : String} (wellFormed : WellFormed call)
    (fresh : written ∉ before) (others : ∀ document, call ≠ .bulkIndex (some written) document)
    (effect : Effect before call after) : written ∉ after := by
  cases effect with
  | unchanged => exact fresh
  | created unused => exact absurd wellFormed id
  | @indexed id document =>
      rw [AList.mem_insert]
      intro shown
      rcases shown with rfl | present
      · exact others document rfl
      · exact fresh present
  | @updated id stored partialDocument present =>
      rw [AList.mem_insert]
      intro shown
      rcases shown with rfl | found
      · exact fresh (AList.lookup_isSome.mp (by rw [present]; rfl))
      · exact fresh found
  | @deleted id present =>
      rw [AList.mem_erase]
      exact fun found => fresh found.2

theorem consistent_of_stepped {pool next : ItemPool} {label : Label ItemRequest Choice} (consistent : Consistent pool)
    (alone : WritesAlone pool label) (stepped : server.items.Stepped pool label next) : Consistent next := by
  have disciplined := System.stepped_always (disciplined_handler server.config) consistent.disciplined stepped
  cases stepped with
  | @start id request unused =>
      refine ⟨consistent.indexed, disciplined, fun other phase written present writes => ?_⟩
      rcases phase_setPhase present with ⟨-, rfl⟩ | ⟨-, before⟩
      · exact absurd writes (not_startsWriting_handler server.config request written)
      · exact consistent.fresh other phase written before writes
  | @receive id call reply resume executed =>
      refine ⟨consistent.indexed, disciplined, fun other phase written present writes => ?_⟩
      rcases phase_setPhase present with ⟨-, rfl⟩ | ⟨-, before⟩
      · exact consistent.fresh id _ written executed writes
      · exact consistent.fresh other phase written before writes
  | @handle id call reply resume waiting =>
      refine ⟨consistent.indexed, disciplined, fun other phase written present writes => ?_⟩
      rcases phase_setPhase present with ⟨-, rfl⟩ | ⟨-, before⟩
      · exact consistent.fresh id _ written waiting ⟨pool.shared, writes⟩
      · exact consistent.fresh other phase written before writes
  | @execute id choice call resume running =>
      have now : Disciplined call resume := (consistent.disciplined id _ running).1
      have effect : Effect pool.store call (server.engine.execute call choice pool.store).2 :=
        server.engine.effect_of_execute call choice pool.store
      refine ⟨carriesIds_of_effect (fun _ => utf16Length_of_valid) consistent.indexed now.wellFormed effect, disciplined, ?_⟩
      intro other phase written present writes
      rcases phase_setPhase present with ⟨-, rfl⟩ | ⟨differs, before⟩
      · obtain ⟨statics, writes⟩ := writes
        obtain ⟨fresh, same⟩ := fresh_of_execute consistent.indexed now writes
        exact same.symm ▸ fresh
      · refine fresh_of_effect now.wellFormed (consistent.fresh other phase written before writes) ?_ effect
        rintro document rfl
        exact alone _ written running ⟨document, resume, rfl⟩ other phase differs before writes

theorem mem_of_effect {before after : Index} {call : Call} {key : String} (present : key ∈ before)
    (kept : call ≠ .delete key) (effect : Effect before call after) : key ∈ after := by
  cases effect with
  | unchanged => exact present
  | created unused => exact (AList.mem_insert _).mpr (.inr present)
  | indexed => exact (AList.mem_insert _).mpr (.inr present)
  | updated stored => exact (AList.mem_insert _).mpr (.inr present)
  | @deleted id stored =>
      refine AList.mem_erase.mpr ⟨?_, present⟩
      intro same
      subst same
      exact kept rfl

theorem mem_of_stepped {pool next : ItemPool} {label : Label ItemRequest Choice} {key : String}
    (present : key ∈ pool.store) (kept : ¬Deletes key pool label) (stepped : server.items.Stepped pool label next) :
    key ∈ next.store := by
  cases stepped with
  | start unused => exact present
  | receive executed => exact present
  | handle waiting => exact present
  | @execute id choice call resume running =>
      refine mem_of_effect present ?_ (server.engine.effect_of_execute call choice pool.store)
      intro same
      subst same
      exact kept ⟨resume, running⟩

theorem lookup_of_write {pool next : ItemPool} (consistent : Consistent pool) {id : Nat} {choice : Choice}
    {task : Handler} {written : String} (running : pool.phase id = some (.running task))
    (writes : StartsWriting task written) (stepped : server.items.step pool (.execute id choice) = some next)
    {key : String} {document : JsonObject} (stored : pool.store.lookup key = some document) :
    next.store.lookup key = some document := by
  have fresh : written ∉ pool.store := consistent.fresh id _ written running writes
  obtain ⟨new, resume, rfl⟩ := writes
  simp only [System.step, running, Option.some.injEq] at stepped
  subst stepped
  have effect : Effect pool.store (.bulkIndex (some written) new)
      (server.engine.execute (.bulkIndex (some written) new) choice pool.store).2 :=
    server.engine.effect_of_execute _ choice pool.store
  change (server.engine.execute (.bulkIndex (some written) new) choice pool.store).2.lookup key = some document
  generalize (server.engine.execute (.bulkIndex (some written) new) choice pool.store).2 = after at effect ⊢
  cases effect with
  | unchanged => exact stored
  | indexed =>
      rw [lookup_insert, if_neg]
      · exact stored
      · intro same
        subst same
        exact fresh (AList.lookup_isSome.mp (by rw [stored]; rfl))

def operator (sub : String) : Caller where
  token := some "token"
  user := some ⟨[("sub", .str sub), ("realm_access", .obj [("roles", .arr [.str "cos_admin"])])]⟩

/-- A body with every field that the API description asks of an app. -/
def appBody (label : String) : JsonObject :=
  ⟨[("id", .str "2c3d4e5f-aaaa-4bbb-8ccc-0123456789ab"), ("type", .arr [.str "adex:Apps"]), ("name", .str label),
    ("label", .str label), ("tags", .arr [.str "crops"]), ("industry", .str "crops"),
    ("shortDescription", .str "an app"), ("description", .str "an app"), ("organizationType", .str "Public"),
    ("accessPolicy", .str "OPEN"),
    ("sections", .arr [.obj [("title", .str "aim"), ("content", .str "to help")]])]⟩

def someMoment : Moment := ⟨"00000000-0000-4000-8000-000000000000", "now", "now", by decide, by decide⟩

def postApp (label : String) : ItemRequest := .post (operator label) (some (appBody label)) someMoment

/-- Execute the next call of a request, process its reply and run its handler. -/
def turn (id : Nat) : List (Label ItemRequest Choice) := [.execute id .plain, .receive id, .handle id]

/-- A change of the index, of which a write adds a document. -/
def ActsFresh (commit : Commit) (index next : Index) : Prop :=
  commit.Acts index next ∧ ∀ id document, commit = .stored id document → id ∉ index

theorem ActsFresh.mem {commit : Commit} {index next : Index} {key : String} (acts : ActsFresh commit index next)
    (present : key ∈ index) (kept : commit ≠ .removed key) : key ∈ next := by
  obtain ⟨acts, -⟩ := acts
  cases commit with
  | stored id document =>
      obtain rfl : next = index.insert id document := acts
      exact (AList.mem_insert _).mpr (.inr present)
  | merged id partialDocument =>
      obtain ⟨document, -, rfl⟩ := acts
      exact (AList.mem_insert _).mpr (.inr present)
  | removed id =>
      obtain ⟨-, rfl⟩ := acts
      refine AList.mem_erase.mpr ⟨?_, present⟩
      rintro rfl
      exact kept rfl

/-- A document that is there is not written again before it is removed. -/
theorem removed_of_replays {index final : Index} {between after : List Commit} {key : String} {document : JsonObject}
    (present : key ∈ index) (replays : Replays ActsFresh index (between ++ .stored key document :: after) final) :
    .removed key ∈ between := by
  induction between generalizing index with
  | nil =>
      obtain ⟨next, acts, -⟩ := replays
      exact absurd present (acts.2 key document rfl)
  | cons commit rest ih =>
      obtain ⟨next, acts, onward⟩ := replays
      by_cases removes : commit = .removed key
      · exact removes ▸ List.mem_cons_self
      · exact List.mem_cons_of_mem _ (ih (acts.mem present removes) onward)

theorem removed_between {index final : Index} {before between after : List Commit} {key : String}
    {first second : JsonObject}
    (replays : Replays ActsFresh index (before ++ .stored key first :: (between ++ .stored key second :: after)) final) :
    .removed key ∈ between := by
  obtain ⟨middle, -, next, acts, onward⟩ := replays.split
  obtain rfl : next = middle.insert key first := acts.1
  exact removed_of_replays ((AList.mem_insert _).mpr (.inl rfl)) onward

theorem actsFresh_of_execute {pool : ItemPool} (consistent : Consistent pool) {id : Nat} {choice : Choice} {call : Call}
    {resume : Reply call → Statics → Handler} (running : pool.phase id = some (.running (.await call resume)))
    {commit : Commit} (made : committed call (server.engine.execute call choice pool.store).1 = some commit) :
    ActsFresh commit pool.store (server.engine.execute call choice pool.store).2 := by
  refine ⟨acts_of_committed made, ?_⟩
  rintro written document rfl
  obtain rfl := call_of_stored made
  exact consistent.fresh id _ written running ⟨document, resume, rfl⟩

/-- The changes of a run whose writes take effect alone, one after the other. -/
theorem replays_of_alone (indexed : Indexed store) {schedule : List (Label ItemRequest Choice)} {pool : ItemPool}
    (guarded : server.items.Guarded WritesAlone (Pool.initial store statics) schedule)
    (reached : server.items.runs (Pool.initial store statics) schedule = some pool) :
    Replays ActsFresh store (commits (server.items.events (Pool.initial store statics) schedule)) pool.store := by
  have kept : ∀ past (pool : ItemPool) label next,
      Consistent pool ∧ Replays ActsFresh store (commits past) pool.store → WritesAlone pool label →
      server.items.Stepped pool label next →
      Consistent next ∧ Replays ActsFresh store (commits (past ++ (server.items.event? pool label).toList)) next.store := by
    intro past pool label next now alone stepped
    obtain ⟨consistent, replays⟩ := now
    refine ⟨consistent_of_stepped consistent alone stepped, ?_⟩
    cases stepped with
    | @start id request unused =>
        rw [System.event?, Option.toList_some, commits_append, commits_started, List.append_nil]
        exact replays
    | receive executed =>
        rw [System.event?, Option.toList_none, List.append_nil]
        exact replays
    | handle waiting =>
        rw [System.event?, Option.toList_none, List.append_nil]
        exact replays
    | @execute id choice call resume running =>
        have wellFormed : WellFormed call := (consistent.disciplined id _ running).1.wellFormed
        simp only [System.event?, running, Option.toList_some, commits_append, commits_called]
        refine replays.append ?_
        change Replays ActsFresh pool.store (committed call (server.engine.execute call choice pool.store).1).toList
          (server.engine.execute call choice pool.store).2
        cases made : committed call (server.engine.execute call choice pool.store).1 with
        | none => exact execute_of_none wellFormed made
        | some commit => exact ⟨_, actsFresh_of_execute consistent running made, rfl⟩
  have initially : Consistent (Pool.initial store statics : ItemPool) ∧
      Replays ActsFresh store (commits ([] : List (Event Call Reply ItemRequest)))
        (Pool.initial store statics : ItemPool).store := ⟨initial_consistent indexed statics, rfl⟩
  exact (System.guarded_preserves_history kept initially guarded reached).2

/-- A create of an item with this id, be it given or made up. -/
def CreatesUnder (key : String) : ItemRequest → Prop
  | .post _ (some given) moment => (addId given moment).getString "id" = some key
  | _ => False

/-- A create that succeeds has stored one document, and one that fails has changed nothing. -/
def ToldOfCreate (key : String) (changes : List Commit) (outcomes : List Outcome) : Prop :=
  (Succeeds outcomes ∧ ∃ document, changes = [.stored key document]) ∨ (Refuses outcomes ∧ changes = [])

/-- The calls that change the index in a create store under its id. -/
def StoresOwn (request : ItemRequest) (call : Call) : Prop :=
  ∀ key reply commit, CreatesUnder key request → committed call reply = some commit →
    ∃ document, commit = .stored key document

theorem storesOwn_handler (config : Config) (request : ItemRequest) :
    (request.handler config).AllCalls (StoresOwn request) := by
  cases request with
  | post caller body moment =>
      refine (stores_of_create config caller body moment).imp fun call resume stores key reply commit creates made => ?_
      obtain ⟨given, id, document, rfl, named, rfl⟩ := stores reply commit made
      obtain rfl : id = key := Option.some.inj (named.symm.trans creates)
      exact ⟨document, rfl⟩
  | put caller body moment =>
      exact (disciplined_handler config _).imp fun _ _ _ key reply commit creates => creates.elim
  | get caller id =>
      exact (disciplined_handler config _).imp fun _ _ _ key reply commit creates => creates.elim
  | delete caller id =>
      exact (disciplined_handler config _).imp fun _ _ _ key reply commit creates => creates.elim

theorem toldOfCreate {schedule : List (Label ItemRequest Choice)} {pool : ItemPool} {id : Nat} {request : ItemRequest}
    {key : String} {outcomes : List Outcome} (reached : server.items.runs (Pool.initial store statics) schedule = some pool)
    (started : .started id request ∈ server.items.events (Pool.initial store statics) schedule)
    (creates : CreatesUnder key request) (ended : pool.result id = some outcomes) :
    ToldOfCreate key (commitsOf id (server.items.events (Pool.initial store statics) schedule)) outcomes := by
  cases request with
  | put caller body moment => exact creates.elim
  | get caller body => exact creates.elim
  | delete caller body => exact creates.elim
  | post caller body moment =>
      rcases System.effect_of_result (confirming_handler server.config) reached started ended with
        ⟨none, refuses⟩ | ⟨commit, one, reports⟩
      · exact .inr ⟨refuses, none⟩
      · have own : commit ∈ commitsOf id (server.items.events (Pool.initial store statics) schedule) := by
          rw [commitsOf, one]
          exact List.mem_singleton_self commit
        obtain ⟨call, reply, called, made⟩ := mem_commitsOf.mp own
        have stores := System.permits_called (storesOwn_handler server.config) reached started called
        obtain ⟨document, rfl⟩ := stores key reply commit creates made
        obtain ⟨status, body, first, rfl, -⟩ := reports
        refine .inl ⟨⟨_, List.mem_of_mem_head? first, ?_⟩, document, one⟩
        exact (by decide : 201 < 400)

def Keeping (key : String) (pool : ItemPool) : Prop := Consistent pool ∧ key ∈ pool.store

/-- What a run of item requests makes of its creates.  No write replaces a
document, a create succeeds exactly when it has stored its own, and between two
that succeed under one id, or before one under an id that was there, the
document is removed. -/
structure CreatesOnce (store : Index) (events : List (Event Call Reply ItemRequest)) (final : ItemPool) : Prop where
  fresh : Replays ActsFresh store (commits events) final.store
  told : ∀ id request key outcomes, .started id request ∈ events → CreatesUnder key request →
    final.result id = some outcomes → ToldOfCreate key (commitsOf id events) outcomes
  absent : ∀ id request key outcomes, .started id request ∈ events → CreatesUnder key request →
    final.result id = some outcomes → Succeeds outcomes → key ∈ store → .removed key ∈ commits events
  once : ∀ first second one two key outcomes others, first ≠ second → .started first one ∈ events →
    .started second two ∈ events → CreatesUnder key one → CreatesUnder key two → final.result first = some outcomes →
    final.result second = some others → Succeeds outcomes → Succeeds others →
    ∃ before between after document another,
      commits events = before ++ .stored key document :: (between ++ .stored key another :: after) ∧
        .removed key ∈ between

theorem ToldOfCreate.stored {key : String} {changes : List Commit} {outcomes : List Outcome}
    (told : ToldOfCreate key changes outcomes) (succeeds : Succeeds outcomes) :
    ∃ document, .stored key document ∈ changes := by
  rcases told with ⟨-, document, rfl⟩ | ⟨refuses, -⟩
  · exact ⟨document, List.mem_singleton_self _⟩
  · exact absurd succeeds refuses.not_succeeds

theorem createsOnce_of_runs (indexed : Indexed store) {schedule : List (Label ItemRequest Choice)} {pool : ItemPool}
    (guarded : server.items.Guarded WritesAlone (Pool.initial store statics) schedule)
    (reached : server.items.runs (Pool.initial store statics) schedule = some pool) :
    CreatesOnce store (server.items.events (Pool.initial store statics) schedule) pool := by
  have fresh := replays_of_alone indexed guarded reached
  refine ⟨fresh, fun id request key outcomes => toldOfCreate reached, ?_, ?_⟩
  · intro id request key outcomes started creates ended succeeds present
    obtain ⟨document, stored⟩ := (toldOfCreate reached started creates ended).stored succeeds
    obtain ⟨before, after, split⟩ := List.append_of_mem (mem_commits.mpr ⟨id, stored⟩)
    rw [split] at fresh ⊢
    exact List.mem_append_left _ (removed_of_replays present fresh)
  · intro first second one two key outcomes others differs started begun creates again ended done succeeds too
    obtain ⟨document, stored⟩ := (toldOfCreate reached started creates ended).stored succeeds
    obtain ⟨another, written⟩ := (toldOfCreate reached begun again done).stored too
    obtain ⟨before, between, after, split | split⟩ := commits_apart differs stored written
    · exact ⟨before, between, after, document, another, split, removed_between (split ▸ fresh)⟩
    · exact ⟨before, between, after, another, document, split, removed_between (split ▸ fresh)⟩

/-- While writes take effect alone, a write of a new document replaces nothing,
and a document that is there stays, and is not written again, until it is
deleted.  Of the creates of one id at most one succeeds until then. -/
theorem create_never_overwrites (server : Server) (store : Index) (statics : Statics) (indexed : Indexed store)
    (schedule : List (Label ItemRequest Choice)) (pool : ItemPool)
    (guarded : server.items.Guarded WritesAlone (Pool.initial store statics) schedule)
    (reached : server.items.runs (Pool.initial store statics) schedule = some pool) :
    (∀ id task written choice next, pool.phase id = some (.running task) → StartsWriting task written →
      server.items.step pool (.execute id choice) = some next →
      ∀ key document, pool.store.lookup key = some document → next.store.lookup key = some document) ∧
    (∀ key rest final, key ∈ pool.store →
      server.items.Guarded (fun pool label => WritesAlone pool label ∧ ¬Deletes key pool label) pool rest →
      server.items.runs pool rest = some final →
      key ∈ final.store ∧ ∀ id task, final.phase id = some (.running task) → ¬StartsWriting task key) ∧
    CreatesOnce store (server.items.events (Pool.initial store statics) schedule) pool := by
  have consistent : Consistent pool :=
    server.items.runs_preserves (fun _ _ _ now alone stepped => consistent_of_stepped now alone stepped)
      (initial_consistent indexed statics) guarded reached
  refine ⟨?_, ?_, createsOnce_of_runs indexed guarded reached⟩
  · intro id task written choice next running writes stepped key document stored
    exact lookup_of_write consistent running writes stepped stored
  · intro key rest final present alone continued
    have kept : Keeping key final :=
      server.items.runs_preserves
        (fun _ _ _ now allowed stepped =>
          ⟨consistent_of_stepped now.1 allowed.1 stepped, mem_of_stepped now.2 allowed.2 stepped⟩)
        ⟨consistent, present⟩ alone continued
    exact ⟨kept.2, fun id task running writes => kept.1.fresh id _ key running writes kept.2⟩

/-- The request has its answer, or its next call reads. -/
def quiet : Option (Phase Call Reply Statics (List Outcome)) → Bool
  | none | some (.running (.done _)) => true
  | some (.running (.await (.bulkIndex _ _) _)) | some (.executed _ _ _) | some (.waiting _ _ _) => false
  | some (.running (.await _ _)) => true

def writesNext : Option (Phase Call Reply Statics (List Outcome)) → Bool
  | some (.running (.await (.bulkIndex _ _) _)) => true
  | _ => false

/-- All requests are among these, and those beside a write are quiet. -/
def AloneAmong (ids : List Nat) (pool : ItemPool) : Label ItemRequest Choice → Prop
  | .start id _ => id ∈ ids
  | .execute id _ => writesNext (pool.phase id) = true → ∀ other ∈ ids, other ≠ id → quiet (pool.phase other) = true
  | .receive _ | .handle _ => True

instance decidableAloneAmong (ids : List Nat) (pool : ItemPool) :
    (label : Label ItemRequest Choice) → Decidable (AloneAmong ids pool label)
  | .start id _ => inferInstanceAs (Decidable (id ∈ ids))
  | .execute id _ => inferInstanceAs (Decidable (writesNext (pool.phase id) = true →
      ∀ other ∈ ids, other ≠ id → quiet (pool.phase other) = true))
  | .receive _ | .handle _ => isTrue trivial

theorem not_outstanding_of_quiet {phase : Phase Call Reply Statics (List Outcome)} (still : quiet (some phase) = true)
    (id : String) : ¬Outstanding id phase := by
  intro outstanding
  cases phase with
  | running task =>
      obtain ⟨document, resume, rfl⟩ := outstanding
      cases still
  | executed call reply resume => cases still
  | waiting call reply resume => cases still

def Among (ids : List Nat) (pool : ItemPool) : Prop := ∀ id phase, pool.phase id = some phase → id ∈ ids

theorem among_of_stepped {ids : List Nat} {pool next : ItemPool} {label : Label ItemRequest Choice}
    (among : Among ids pool) (alone : AloneAmong ids pool label) (stepped : server.items.Stepped pool label next) :
    Among ids next := by
  intro other phase present
  cases stepped with
  | start unused =>
      rcases phase_setPhase present with ⟨rfl, -⟩ | ⟨-, before⟩
      · exact alone
      · exact among other phase before
  | execute running =>
      rcases phase_setPhase present with ⟨rfl, -⟩ | ⟨-, before⟩
      · exact among _ _ running
      · exact among other phase before
  | receive executed =>
      rcases phase_setPhase present with ⟨rfl, -⟩ | ⟨-, before⟩
      · exact among _ _ executed
      · exact among other phase before
  | handle waiting =>
      rcases phase_setPhase present with ⟨rfl, -⟩ | ⟨-, before⟩
      · exact among _ _ waiting
      · exact among other phase before

theorem writesAlone_of_aloneAmong {ids : List Nat} {pool : ItemPool} {label : Label ItemRequest Choice}
    (among : Among ids pool) (alone : AloneAmong ids pool label) : WritesAlone pool label := by
  cases label with
  | start id request => trivial
  | receive id => trivial
  | handle id => trivial
  | execute id choice =>
      rintro task written running ⟨document, resume, rfl⟩ other phase differs present
      have still := alone (by rw [running]; rfl) other (among other phase present) differs
      rw [present] at still
      exact not_outstanding_of_quiet still written

def deleteApp : ItemRequest := .delete (operator "token") (some "2c3d4e5f-aaaa-4bbb-8ccc-0123456789ab")

/-- Two creates of one id beside each other, a delete of it and a third create. -/
def createsInTurn : List (Label ItemRequest Choice) :=
  [.start 0 (postApp "first"), .start 1 (postApp "second")] ++ turn 0 ++ turn 1 ++ turn 0 ++ turn 0 ++ turn 1 ++
    [.start 2 deleteApp, .start 3 (postApp "third")] ++ turn 2 ++ turn 3 ++ turn 2 ++ turn 3 ++ turn 3

def answers (pool : ItemPool) : List (Option (List Nat)) :=
  [0, 1, 2, 3].map fun id => (pool.result id).map (List.map Outcome.status)

theorem create_never_overwrites_inTurn :
    ∃ pool, asciiServer.items.runs (Pool.initial ∅ {}) createsInTurn = some pool ∧
      answers pool = [some [201], some [400], some [200], some [201]] ∧
      (∀ id task written choice next, pool.phase id = some (.running task) → StartsWriting task written →
        asciiServer.items.step pool (.execute id choice) = some next →
        ∀ key document, pool.store.lookup key = some document → next.store.lookup key = some document) ∧
      (∀ key rest final, key ∈ pool.store →
        asciiServer.items.Guarded (fun pool label => WritesAlone pool label ∧ ¬Deletes key pool label) pool rest →
        asciiServer.items.runs pool rest = some final →
        key ∈ final.store ∧ ∀ id task, final.phase id = some (.running task) → ¬StartsWriting task key) ∧
      CreatesOnce ∅ (asciiServer.items.events (Pool.initial ∅ {}) createsInTurn) pool := by
  have told : (asciiServer.items.runs (Pool.initial ∅ {}) createsInTurn).map answers =
      some [some [201], some [400], some [200], some [201]] := by decide +kernel
  have alone : asciiServer.items.Guarded (AloneAmong [0, 1, 2, 3]) (Pool.initial ∅ {}) createsInTurn := by
    decide +kernel
  have empty : Indexed ∅ := by
    intro id document stored
    cases stored
  have among : Among [0, 1, 2, 3] (Pool.initial ∅ {}) := by
    intro id phase present
    cases present
  obtain ⟨pool, reached, statuses⟩ := Option.map_eq_some_iff.mp told
  have guarded : asciiServer.items.Guarded WritesAlone (Pool.initial ∅ {}) createsInTurn :=
    System.Guarded.imp asciiServer.items (fun _ _ _ => among_of_stepped) (fun _ _ => writesAlone_of_aloneAmong) among
      alone
  exact ⟨pool, reached, statuses, create_never_overwrites asciiServer ∅ {} empty createsInTurn pool guarded reached⟩

/-- Both requests look the name and the id up before either of them writes. -/
def createsOverlap : List (Label ItemRequest Choice) :=
  [.start 0 (postApp "first"), .start 1 (postApp "second")] ++ turn 0 ++ turn 0 ++ turn 1 ++ turn 1

def afterCreates (schedule : List (Label ItemRequest Choice)) :
    Option (Option String × Option (List Nat) × Option (List Nat)) := do
  let final ← asciiServer.items.runs (Pool.initial ∅ {}) schedule
  let stored := final.store.lookup "2c3d4e5f-aaaa-4bbb-8ccc-0123456789ab"
  return (stored.bind fun document => document.getString "label",
    (final.result 0).map (List.map Outcome.status), (final.result 1).map (List.map Outcome.status))

/-- Both creates succeed, and the second replaces the document of the first. -/
theorem second_create_overwrites :
    afterCreates (createsOverlap ++ turn 0) = some (some "first", some [201], none) ∧
      afterCreates (createsOverlap ++ turn 0 ++ turn 1) = some (some "second", some [201], some [201]) := by
  decide +kernel

end Tgdex.Properties
