import RlyGateway.Library.JsonPrefix
import RlyGateway.Library.Runs
import RlyGateway.Storage.Retention

/-!
# Runs of the retention

A run takes up the classes that the marker of an interrupted one has left. Where every class finds
only entries that it can read and remove, no run throws, the marker goes only once every class was
applied, and no stored response is left that is older than its class allows.
-/

namespace RlyGateway

variable {runtime : NodeRuntime} {policy : RetentionPolicy} {now cutoff : ℤ}

/-! ## Clean state directories -/

/-- A file that holds the record of a response from before the cutoff. -/
def holdsOlder (runtime : NodeRuntime) (cutoff : ℤ) (entry : PrivateEntry) : Bool :=
  ((Json.parse entry.text).bind storedSchema).any (createdBefore runtime cutoff)

/-- The entry is a regular file that has the name of a stored response. -/
def isResponseFile (name : String) (entry : PrivateEntry) : Prop :=
  entry.kind = .file ∧ jsonSuffix <:+ name.toList

/-- No stored response is older than the cutoff. -/
def NoOlderResponse (runtime : NodeRuntime) (cutoff : ℤ) (state : StateDirectory) : Prop :=
  ∀ name entry, (state.directories .responses).entries.get? name = some entry →
    isResponseFile name entry → holdsOlder runtime cutoff entry = false

/-- The cutoff of a class. -/
def RetentionPolicy.cutoffOf (policy : RetentionPolicy) (now : ℤ) (className : RetentionClassName) : ℤ :=
  now - (policy.classes className).maxAgeMs

/-- What is old in a directory that can be used is a safe regular file. -/
def PrivateDirectory.OldAreSafe (directory : PrivateDirectory) (cutoff : ℤ) : Prop :=
  directory.usable = true → ∀ name entry, directory.entries.get? name = some entry →
    entry.mtimeMs < cutoff → isSafePrivateFile entry = true

/-- Every class finds what it can deal with: what is old and has to go can be removed, and what has
the name of a stored response is a safe file with the name of an id that holds JSON. -/
structure StateDirectory.Clean (policy : RetentionPolicy) (now : ℤ) (state : StateDirectory) : Prop where
  usable : state.usable = true
  logs : (state.directories .logs).OldAreSafe (policy.cutoffOf now .logs)
  backups : (state.directories .backups).OldAreSafe (policy.cutoffOf now .backups)
  responses : (state.directories .responses).usable = true
  records : ∀ name entry, (state.directories .responses).entries.get? name = some entry →
    isResponseFile name entry → isSafePrivateFile entry = true ∧ (Json.parse entry.text).isSome = true ∧
      ∃ id, isResponseId id = true ∧ name = id ++ ".json"
  credentialStore : state.credentialStore = true
  quarantine : (state.directories .quarantine).OldAreSafe (policy.cutoffOf now .expiredCredentials)

/-- A state directory after some entries of its directories were removed. -/
structure StateDirectory.Trimmed (state state' : StateDirectory) : Prop where
  usable : state.usable = state'.usable
  directories : ∀ which, (state.directories which).Trimmed (state'.directories which)
  credentialStore : state.credentialStore = state'.credentialStore

theorem PrivateDirectory.OldAreSafe.trimmed {directory directory' : PrivateDirectory}
    (h : directory'.OldAreSafe cutoff) (htrimmed : directory.Trimmed directory') :
    directory.OldAreSafe cutoff := by
  intro husable name entry hentry hold
  rw [htrimmed.usable] at husable
  exact h husable name entry (htrimmed.entries name entry hentry) hold

namespace StateDirectory

variable {state state' state'' : StateDirectory}

theorem Trimmed.refl (state : StateDirectory) : state.Trimmed state :=
  ⟨rfl, fun _ => .refl _, rfl⟩

theorem Trimmed.trans (h : state.Trimmed state') (h' : state'.Trimmed state'') :
    state.Trimmed state'' :=
  ⟨h.usable.trans h'.usable, fun which => (h.directories which).trans (h'.directories which),
    h.credentialStore.trans h'.credentialStore⟩

theorem trimmed_update (which : RetentionDirectory) {directory : PrivateDirectory}
    (h : directory.Trimmed (state.directories which)) : (state.update which directory).Trimmed state := by
  refine ⟨rfl, fun other => ?_, rfl⟩
  unfold update
  by_cases heq : other = which
  · rw [heq]
    simpa using h
  · simpa [heq] using PrivateDirectory.Trimmed.refl (state.directories other)

/-- Entries that go leave the others as clean as they were. -/
theorem Clean.trimmed (h : state'.Clean policy now) (htrimmed : state.Trimmed state') :
    state.Clean policy now where
  usable := htrimmed.usable.trans h.usable
  logs := h.logs.trimmed (htrimmed.directories .logs)
  backups := h.backups.trimmed (htrimmed.directories .backups)
  responses := (htrimmed.directories .responses).usable.trans h.responses
  records name entry hentry :=
    h.records name entry ((htrimmed.directories .responses).entries name entry hentry)
  credentialStore := htrimmed.credentialStore.trans h.credentialStore
  quarantine := h.quarantine.trimmed (htrimmed.directories .quarantine)

end StateDirectory

theorem NoOlderResponse.trimmed {state state' : StateDirectory}
    (h : NoOlderResponse runtime cutoff state') (htrimmed : state.Trimmed state') :
    NoOlderResponse runtime cutoff state :=
  fun name entry hentry => h name entry ((htrimmed.directories .responses).entries name entry hentry)

/-! ## One class -/

open EStateM

/-- A run that has only removed entries since the given state. -/
structure Within (state : StateDirectory) (events : List RetentionEvent) (world : RetentionWorld) :
    Prop where
  trimmed : world.state.Trimmed state
  marker : world.state.marker = state.marker
  events : world.events = events

/-- A run that was killed, and had only removed entries since the given state. -/
def KilledWithin (state : StateDirectory) (events : List RetentionEvent) (stop : RetentionStop)
    (world : RetentionWorld) : Prop :=
  stop = .crashed ∧ Within state events world

section Programs

variable {α : Type} {pre : RetentionWorld → Prop} {post : α → RetentionWorld → Prop}
  {stopped : RetentionStop → RetentionWorld → Prop}

/-- A durable change is made, or the process is killed before it. -/
theorem meets_changeState {change : StateDirectory → StateDirectory}
    {post : Unit → RetentionWorld → Prop} (hcrash : ∀ world, pre world → stopped .crashed world)
    (hpost : ∀ world crashIn, pre world →
      post () { world with state := change world.state, crashIn }) :
    Meets pre (changeState change) post stopped := by
  intro world hpre
  unfold changeState
  cases world.crashIn with
  | none => exact hpost world none hpre
  | some n =>
      cases n with
      | zero => exact hcrash world hpre
      | succ n => exact hpost world (some n) hpre

/-- The program goes on with what was read, of which something is known. -/
theorem meets_read {β : Type} {read : StateDirectory → α} {next : α → RetentionM β}
    {post : β → RetentionWorld → Prop} (known : α → Prop)
    (hknown : ∀ world, pre world → known (read world.state))
    (h : ∀ a, known a → Meets pre (next a) post stopped) :
    Meets pre (readState read >>= next) post stopped :=
  meets_reads_bind known hknown h

/-- What is given goes on into the program. -/
theorem meets_liftRetention_ok {β : Type} {result : Except RetentionError α} {a : α}
    {next : α → RetentionM β} {post : β → RetentionWorld → Prop} (h : result = .ok a)
    (hnext : Meets pre (next a) post stopped) :
    Meets pre (liftRetention result >>= next) post stopped := by
  subst h
  exact hnext

end Programs

section Classes

variable {state : StateDirectory} {events : List RetentionEvent}

theorem Within.refl (world : RetentionWorld) : Within world.state world.events world :=
  ⟨.refl _, rfl, rfl⟩

/-- A safe file is removed. -/
theorem meets_removePrivateFileIfPresent (which : RetentionDirectory) (name : String)
    {entry : PrivateEntry} (hsafe : isSafePrivateFile entry = true) :
    Meets (fun world => Within state events world ∧
        (world.state.directories which).entries.get? name = some entry)
      (removePrivateFileIfPresent which name)
      (fun _ world => Within state events world ∧
        (world.state.directories which).entries.get? name = none)
      (KilledWithin state events) := by
  unfold removePrivateFileIfPresent
  refine meets_read (· = .ok true) ?_ ?_
  · intro world hpre
    exact (PrivateDirectory.of_isSafePrivateFile hpre.2 hsafe).2
  · rintro _ rfl
    refine meets_liftRetention_ok rfl
      (Meets.ite (fun _ => meets_changeState ?_ ?_) fun hnot => absurd rfl hnot)
    · intro world hpre
      exact ⟨rfl, hpre.1⟩
    · intro world crashIn hpre
      refine ⟨⟨?_, hpre.1.marker, hpre.1.events⟩, ?_⟩
      · exact (StateDirectory.trimmed_update which (PrivateDirectory.trimmed_unlink _ name)).trans
          hpre.1.trimmed
      · simp [StateDirectory.update, PrivateDirectory.unlink, OrderedMap.get?_erase]

/-- Where what is old is safe, it is deleted. -/
theorem meets_deleteOlderEntries (which : RetentionDirectory) {cutoff : ℤ}
    (hclean : ∀ name entry, (state.directories which).entries.get? name = some entry →
      entry.mtimeMs < cutoff → isSafePrivateFile entry = true) (names : List String) :
    Meets (Within state events) (deleteOlderEntries which cutoff names)
      (fun _ => Within state events) (KilledWithin state events) := by
  induction names with
  | nil => exact meets_pure fun _ h => h
  | cons name names ih =>
      intro world hwithin
      suffices hstart : Meets (· = world) (deleteOlderEntries which cutoff (name :: names))
          (fun _ => Within state events) (KilledWithin state events) from hstart world rfl
      unfold deleteOlderEntries
      refine meets_read (· = (world.state.directories which).entries.get? name)
        (by rintro _ rfl; rfl) ?_
      rintro _ rfl
      refine Meets.ite (fun hold => ?_) fun _ => ?_
      · obtain ⟨entry, hentry, hold⟩ := (Option.any_eq_true _ _).1 hold
        have hsafe := hclean name entry ((hwithin.trimmed.directories which).entries name entry hentry)
          (of_decide_eq_true hold)
        refine Meets.through (fun _ => Within state events) ?_ fun _ =>
          ih.bind fun _ => meets_pure fun _ h => h
        exact (meets_removePrivateFileIfPresent which name hsafe).mono
          (by rintro _ rfl; exact ⟨hwithin, hentry⟩) (fun _ _ h => h.1) fun _ _ h => h
      · exact ih.pre_of (by rintro _ rfl; exact hwithin)

theorem meets_deleteOlderFiles (which : RetentionDirectory) {cutoff : ℤ}
    (hclean : (state.directories which).OldAreSafe cutoff) :
    Meets (Within state events) (deleteOlderFiles which cutoff)
      (fun _ => Within state events) (KilledWithin state events) := by
  unfold deleteOlderFiles
  refine meets_read (fun directory => directory.Trimmed (state.directories which))
    (fun world hwithin => hwithin.trimmed.directories which) ?_
  intro directory htrimmed
  refine Meets.ite (fun _ => meets_pure fun _ h => h) fun husable => ?_
  rw [Bool.not_eq_true, Bool.not_eq_false'] at husable
  exact meets_deleteOlderEntries which (hclean (htrimmed.usable.symm.trans husable)) _

/-! ## Stored responses -/

/-- The file of a response is found under its id. -/
theorem mem_responseIds {names : List String} {id : String} (h : id ++ ".json" ∈ names) :
    id ∈ responseIds names := by
  have hlength : (id ++ ".json").toList.length - 5 = id.toList.length := by
    simp
  refine List.mem_map.2 ⟨id ++ ".json", List.mem_filter.2 ⟨h, ?_⟩, ?_⟩
  · rw [decide_eq_true_eq, String.toList_append]
    exact List.suffix_append _ _
  · rw [hlength, String.toList_append, List.take_left, String.ofList_toList]

/-- The name of an id that is listed is that of a file. -/
theorem exists_name_of_mem_responseIds {names : List String} {id : String}
    (h : id ∈ responseIds names) : id ++ ".json" ∈ names ∧ jsonSuffix <:+ (id ++ ".json").toList := by
  obtain ⟨name, hmem, rfl⟩ := List.mem_map.1 h
  obtain ⟨hname, hsuffix⟩ := List.mem_filter.1 hmem
  rw [decide_eq_true_eq] at hsuffix
  obtain ⟨start, hstart⟩ := hsuffix
  have heq : String.ofList (name.toList.take (name.toList.length - 5)) ++ ".json" = name := by
    rw [← String.toList_inj, String.toList_append, String.toList_ofList, ← hstart]
    simp [jsonSuffix]
  rw [heq]
  exact ⟨hname, ⟨start, hstart⟩⟩

/-- The file of an id holds no record from before the cutoff, or is gone. -/
def ResponseKept (runtime : NodeRuntime) (cutoff : ℤ) (id : String) (world : RetentionWorld) : Prop :=
  ∀ entry, (world.state.directories .responses).entries.get? (id ++ ".json") = some entry →
    holdsOlder runtime cutoff entry = false

theorem Within.trans {world world' : RetentionWorld} (h : Within state events world)
    (h' : Within world.state world.events world') : Within state events world' :=
  ⟨h'.trimmed.trans h.trimmed, h'.marker.trans h.marker, h'.events.trans h.events⟩

theorem ResponseKept.trimmed {cutoff : ℤ} {id : String} {world world' : RetentionWorld}
    (h : ResponseKept runtime cutoff id world) (htrimmed : world'.state.Trimmed world.state) :
    ResponseKept runtime cutoff id world' :=
  fun entry hentry => h entry ((htrimmed.directories .responses).entries _ entry hentry)

/-- What a clean directory has under the name of a stored response. -/
theorem StateDirectory.Clean.record (hclean : state.Clean policy now) {id : String}
    {entry : PrivateEntry}
    (hentry : (state.directories .responses).entries.get? (id ++ ".json") = some entry)
    (hfile : isResponseFile (id ++ ".json") entry) :
    isResponseId id = true ∧ isSafePrivateFile entry = true ∧
      ∃ value, Json.parse entry.text = some value := by
  obtain ⟨hsafe, hparse, id', hid, hname⟩ := hclean.records _ entry hentry hfile
  have heq : id = id' := by
    rw [← String.toList_inj, String.toList_append, String.toList_append] at hname
    exact String.toList_inj.1 (List.append_cancel_right hname)
  exact ⟨heq ▸ hid, hsafe, Option.isSome_iff_exists.1 hparse⟩

/-- An id under whose name a directory has the file of a response, or nothing any more. -/
def ResponseListed (state : StateDirectory) (id : String) : Prop :=
  isResponseId id = true ∧
    ∀ entry, (state.directories .responses).entries.get? (id ++ ".json") = some entry →
      isResponseFile (id ++ ".json") entry

theorem ResponseListed.trimmed {state state' : StateDirectory} {id : String}
    (h : ResponseListed state' id) (htrimmed : state.Trimmed state') : ResponseListed state id :=
  ⟨h.1, fun entry hentry => h.2 entry ((htrimmed.directories .responses).entries _ entry hentry)⟩

/-- In a clean directory every stored response that is still there is read. -/
theorem getResponse_of_clean (hclean : state.Clean policy now) {id : String}
    (hlisted : ResponseListed state id) :
    getResponse state id = .ok (((state.directories .responses).entries.get? (id ++ ".json")).bind
      fun entry => (Json.parse entry.text).bind storedSchema) := by
  have hprepare : prepareResponses state = .ok () := by
    unfold prepareResponses PrivateDirectory.ensurePrivateDirectory
    rw [hclean.usable, hclean.responses]
    rfl
  have hname : responseFileFor id = .ok (id ++ ".json") := if_pos hlisted.1
  unfold getResponse
  rw [hprepare, hname]
  cases hentry : (state.directories .responses).entries.get? (id ++ ".json") with
  | none =>
      have hread : (state.directories .responses).readPrivateTextIfPresent (id ++ ".json") = .ok none := by
        unfold PrivateDirectory.readPrivateTextIfPresent PrivateDirectory.assertSafeFilePath
        rw [hentry]
        rfl
      simp only [bind, Except.bind, Except.mapError, hread]
      rfl
  | some entry =>
      obtain ⟨-, hsafe, value, hvalue⟩ := hclean.record hentry (hlisted.2 entry hentry)
      simp only [bind, Except.bind, Except.mapError,
        (PrivateDirectory.of_isSafePrivateFile hentry hsafe).1, hvalue]
      rw [Option.bind_some, hvalue]
      rfl

/-- Where the directory is clean, the stored responses from before the cutoff are removed. -/
theorem meets_deleteOlderResponses (cutoff : ℤ) {ids : List String} {start : RetentionWorld}
    (hclean : start.state.Clean policy now) (hids : ∀ id ∈ ids, ResponseListed start.state id) :
    Meets (· = start) (deleteOlderResponses runtime cutoff ids)
      (fun _ world => Within start.state start.events world ∧
        ∀ id ∈ ids, ResponseKept runtime cutoff id world)
      (KilledWithin start.state start.events) := by
  induction ids generalizing start with
  | nil =>
      refine meets_pure ?_
      rintro _ rfl
      exact ⟨.refl _, fun id hid => absurd hid List.not_mem_nil⟩
  | cons id ids ih =>
      have hlisted := hids id List.mem_cons_self
      -- The rest goes on from a state in which this id is dealt with.
      have hrest : Meets
          (fun world => Within start.state start.events world ∧ ResponseKept runtime cutoff id world)
          (deleteOlderResponses runtime cutoff ids)
          (fun _ world => Within start.state start.events world ∧
            ∀ other ∈ id :: ids, ResponseKept runtime cutoff other world)
          (KilledWithin start.state start.events) := by
        rintro world ⟨hwithin, hkept⟩
        refine (ih (hclean.trimmed hwithin.trimmed) fun other hother =>
          (hids other (List.mem_cons_of_mem _ hother)).trimmed hwithin.trimmed).mono
            (fun _ h => h) ?_ ?_ world rfl
        · rintro _ world' ⟨hwithin', hothers⟩
          exact ⟨hwithin.trans hwithin',
            List.forall_mem_cons.2 ⟨hkept.trimmed hwithin'.trimmed, hothers⟩⟩
        · rintro _ world' ⟨hcrashed, hwithin'⟩
          exact ⟨hcrashed, hwithin.trans hwithin'⟩
      unfold deleteOlderResponses
      refine meets_read (· = getResponse start.state id) (by rintro _ rfl; rfl) ?_
      · rintro _ rfl
        refine meets_liftRetention_ok (getResponse_of_clean hclean hlisted)
          (Meets.ite (fun hold => ?_) fun hyoung => ?_)
        · obtain ⟨createdAt, hrecord, hcreated⟩ := (Option.any_eq_true _ _).1 hold
          obtain ⟨entry, hentry, -⟩ := Option.bind_eq_some_iff.1 hrecord
          have hsafe := (hclean.record hentry (hlisted.2 entry hentry)).2.1
          refine meets_liftRetention_ok (if_pos hlisted.1) (Meets.bind ?_ fun _ => hrest.bind fun _ =>
            meets_pure fun _ h => h)
          refine (meets_removePrivateFileIfPresent .responses _ hsafe).mono ?_ ?_ fun _ _ h => h
          · rintro _ rfl
            exact ⟨.refl _, hentry⟩
          · rintro _ world ⟨hwithin, hnone⟩
            refine ⟨hwithin, fun entry' hentry' => ?_⟩
            rw [hnone] at hentry'
            cases hentry'
        · refine hrest.pre_of ?_
          rintro _ rfl
          refine ⟨.refl _, fun entry hentry => ?_⟩
          rw [hentry, Bool.not_eq_true] at hyoung
          exact hyoung

/-- Behind the class of the continuations no stored response is older than its cutoff. -/
theorem meets_deleteOlderContinuations (cutoff : ℤ) {start : RetentionWorld}
    (hclean : start.state.Clean policy now) :
    Meets (· = start) (deleteOlderContinuations runtime cutoff)
      (fun _ world => Within start.state start.events world ∧
        NoOlderResponse runtime cutoff world.state)
      (KilledWithin start.state start.events) := by
  let names := (start.state.directories .responses).regularFiles
  have hlist : listResponses start.state = .ok (responseIds names) := by
    unfold listResponses prepareResponses PrivateDirectory.ensurePrivateDirectory
    rw [hclean.usable, hclean.responses,
      PrivateDirectory.listPrivateDirectory_of_usable hclean.responses]
    rfl
  have hlisted : ∀ id ∈ responseIds names, ResponseListed start.state id := by
    intro id hid
    obtain ⟨hname, hsuffix⟩ := exists_name_of_mem_responseIds hid
    obtain ⟨entry, hentry, hkind⟩ := PrivateDirectory.mem_regularFiles.1 hname
    refine ⟨(hclean.record hentry ⟨hkind, hsuffix⟩).1, fun entry' hentry' => ?_⟩
    rw [hentry] at hentry'
    cases hentry'
    exact ⟨hkind, hsuffix⟩
  unfold deleteOlderContinuations
  refine meets_read (· = .ok (responseIds names)) (by rintro _ rfl; exact hlist) ?_
  rintro _ rfl
  refine meets_liftRetention_ok rfl ((meets_deleteOlderResponses cutoff hclean hlisted).post_of ?_)
  rintro _ world ⟨hwithin, hkept⟩
  refine ⟨hwithin, fun name entry hentry hfile => ?_⟩
  have hbefore := (hwithin.trimmed.directories .responses).entries name entry hentry
  obtain ⟨-, -, id, -, rfl⟩ := hclean.records name entry hbefore hfile
  exact hkept id (mem_responseIds (PrivateDirectory.mem_regularFiles.2 ⟨entry, hbefore, hfile.1⟩))
    entry hentry

/-- In a clean state directory every class is applied, unless the process is killed. -/
theorem meets_applyClass (className : RetentionClassName) {start : RetentionWorld}
    (hclean : start.state.Clean policy now) :
    Meets (· = start) (applyClass runtime policy className now)
      (fun _ world => Within start.state start.events world ∧ (className = .continuation →
        NoOlderResponse runtime (policy.cutoffOf now .continuation) world.state))
      (KilledWithin start.state start.events) := by
  have hfiles : ∀ (which : RetentionDirectory) {cutoff : ℤ},
      (start.state.directories which).OldAreSafe cutoff →
      Meets (· = start) (deleteOlderFiles which cutoff)
        (fun _ => Within start.state start.events) (KilledWithin start.state start.events) :=
    fun which _ hold => (meets_deleteOlderFiles which hold).pre_of (by rintro _ rfl; exact .refl _)
  cases className with
  | logs => exact (hfiles .logs hclean.logs).post_of fun _ _ h => ⟨h, by rintro ⟨⟩⟩
  | backups => exact (hfiles .backups hclean.backups).post_of fun _ _ h => ⟨h, by rintro ⟨⟩⟩
  | continuation =>
      exact (meets_deleteOlderContinuations _ hclean).post_of fun _ _ h => ⟨h.1, fun _ => h.2⟩
  | audit =>
      refine meets_read (fun _ => True) (fun _ _ => trivial) fun times _ => ?_
      cases times with
      | none =>
          refine meets_pure ?_
          rintro _ rfl
          exact ⟨.refl _, by rintro ⟨⟩⟩
      | some times =>
          refine Meets.bind (meets_changeState ?_ ?_) fun _ => meets_pure fun _ h => h
          · rintro _ rfl
            exact ⟨rfl, .refl _⟩
          · rintro world crashIn rfl
            exact ⟨⟨⟨rfl, fun _ => .refl _, rfl⟩, rfl, rfl⟩, by rintro ⟨⟩⟩
  | expiredCredentials =>
      refine meets_read (· = true) (by rintro _ rfl; exact hclean.credentialStore) ?_
      rintro _ rfl
      exact (hfiles .quarantine hclean.quarantine).post_of fun _ _ h => ⟨h, by rintro ⟨⟩⟩

end Classes

/-! ## Laws -/

/-- The classes that were applied since the marker was last removed or a run last threw. -/
def appliedSince (events : List RetentionEvent) : List RetentionClassName :=
  events.foldl (fun applied event => match event with
    | .applied className => applied ++ [className]
    | .markerRemoved | .failed => []
    | .completed _ _ _ => applied) []

/-- The marker is removed only once every class was applied; a run that throws has applied every
class but one, in whose way the entry is that it cannot deal with; and a run that completes leaves no
response that is older than its class allows, and removes the marker last. -/
def RetentionLaw (runtime : NodeRuntime) (before : List RetentionEvent) : RetentionEvent → Prop
  | .applied _ => True
  | .markerRemoved => ∀ className ∈ CLASS_ORDER, className ∈ appliedSince before
  | .failed => ∃ bad, ∀ className ∈ CLASS_ORDER, className ≠ bad → className ∈ appliedSince before
  | .completed policy now state => (∃ earlier, before = earlier ++ [.markerRemoved]) ∧
      NoOlderResponse runtime (policy.cutoffOf now .continuation) state

/-- An event of a run that does not throw. -/
def Unfailing (runtime : NodeRuntime) (before : List RetentionEvent) (event : RetentionEvent) : Prop :=
  event ≠ .failed ∧ RetentionLaw runtime before event

theorem appliedSince_applied (events : List RetentionEvent) (className : RetentionClassName) :
    appliedSince (events ++ [.applied className]) = appliedSince events ++ [className] := by
  unfold appliedSince
  rw [List.foldl_append]
  rfl

/-! ## Markers -/

/-- The names of classes, as they stand in a marker. -/
def classItems (classes : List RetentionClassName) : List Json :=
  classes.map fun className => .str className.text

@[simp] theorem ofJson?_text (className : RetentionClassName) :
    RetentionClassName.ofJson? (.str className.text) = some className := by
  cases className <;> rfl

/-- The marker that a run writes is read again. -/
theorem readMarker_markerText {state : StateDirectory} {classes : List RetentionClassName}
    (h : state.marker = .file (markerText (classItems classes) policy)) :
    readMarker state = .ok (some (classItems classes)) := by
  have hversion : (Json.num (policy.version : ℚ)).WellFormed :=
    .num ⟨0, by rw [Rat.den_natCast, pow_zero]⟩
  have hitems : (Json.arr (classItems classes)).WellFormed := by
    refine .arr fun item hitem => ?_
    obtain ⟨className, -, rfl⟩ := List.mem_map.1 hitem
    exact .str _
  have hparse : Json.parse (markerText (classItems classes) policy) =
      some (.obj [("remaining", .arr (classItems classes)), ("policyVersion", .num policy.version)]) := by
    refine Json.parse_stringify_newline (.obj (by simp) fun field hfield => ?_)
    rcases List.mem_cons.1 hfield with rfl | hfield
    · exact hitems
    · rw [List.mem_singleton.1 hfield]
      exact hversion
  unfold readMarker
  rw [h]
  simp only [hparse]
  rfl

/-- The marker leaves the given classes, and those in front of them were applied. -/
structure Leaves (policy : RetentionPolicy) (done next : List RetentionClassName)
    (world : RetentionWorld) : Prop where
  marker : world.state.marker = .file (markerText (classItems next) policy)
  next_ne : next ≠ []
  order : CLASS_ORDER = done ++ next
  applied : ∀ className ∈ done, className ∈ appliedSince world.events

/-- An interrupted run can be taken up: there is no marker, or it leaves what was not applied. -/
def Resumable (world : RetentionWorld) : Prop :=
  world.state.marker = .absent ∨ ∃ policy done next, Leaves policy done next world

/-- The process was killed, and its run can be taken up. -/
def KilledResumable (runtime : NodeRuntime) (stop : RetentionStop) (world : RetentionWorld) : Prop :=
  stop = .crashed ∧ Resumable world ∧ world.events.Lawful (Unfailing runtime)

/-- A run has applied everything. -/
structure Finished (runtime : NodeRuntime) (policy : RetentionPolicy) (now : ℤ)
    (world : RetentionWorld) : Prop where
  marker : world.state.marker = .absent
  removed : ∃ earlier, world.events = earlier ++ [.markerRemoved]
  lawful : world.events.Lawful (Unfailing runtime)
  young : NoOlderResponse runtime (policy.cutoffOf now .continuation) world.state

/-- The state between two classes of a run. -/
structure Between (runtime : NodeRuntime) (policy : RetentionPolicy) (now : ℤ)
    (done next : List RetentionClassName) (world : RetentionWorld) : Prop where
  clean : world.state.Clean policy now
  lawful : world.events.Lawful (Unfailing runtime)
  young : .continuation ∈ done →
    NoOlderResponse runtime (policy.cutoffOf now .continuation) world.state
  marker : (next = [] ∧ world.state.marker = .absent ∧ CLASS_ORDER = done ∧
      ∃ earlier, world.events = earlier ++ [.markerRemoved]) ∨ Leaves policy done next world

theorem Leaves.congr {done next : List RetentionClassName} {world world' : RetentionWorld}
    (h : Leaves policy done next world) (hmarker : world'.state.marker = world.state.marker)
    (happlied : ∀ className ∈ appliedSince world.events, className ∈ appliedSince world'.events) :
    Leaves policy done next world' :=
  ⟨hmarker.trans h.marker, h.next_ne, h.order, fun className hmem =>
    happlied className (h.applied className hmem)⟩

/-- Behind a class that was applied, the marker says what is left. -/
theorem meets_leaveMarker {className : RetentionClassName} {done next : List RetentionClassName}
    {noted : RetentionWorld} (hclean : noted.state.Clean policy now)
    (hlawful : noted.events.Lawful (Unfailing runtime))
    (hyoung : .continuation ∈ done ++ [className] →
      NoOlderResponse runtime (policy.cutoffOf now .continuation) noted.state)
    (happlied : className ∈ appliedSince noted.events)
    (hleaves : Leaves policy done (className :: next) noted) :
    Meets (· = noted) (leaveMarker (classItems next) policy)
      (fun _ => Between runtime policy now (done ++ [className]) next) (KilledResumable runtime) := by
  have hkilled : KilledResumable runtime .crashed noted :=
    ⟨rfl, .inr ⟨policy, done, _, hleaves⟩, hlawful⟩
  have happlied' : ∀ other ∈ done ++ [className], other ∈ appliedSince noted.events := by
    intro other hother
    rcases List.mem_append.1 hother with hmem | hmem
    · exact hleaves.applied other hmem
    · rw [List.mem_singleton.1 hmem]
      exact happlied
  have horder : CLASS_ORDER = (done ++ [className]) ++ next := by
    rw [hleaves.order, List.append_cons]
  refine Meets.ite (fun hempty => ?_) fun hrest => ?_
  · have hnext : next = [] := by simpa [classItems] using hempty
    rw [hnext, List.append_nil] at horder
    refine Meets.through (fun _ world =>
        world.state = { noted.state with marker := .absent } ∧ world.events = noted.events)
      (meets_changeState ?_ ?_) fun _ => meets_modify ?_
    · rintro _ rfl
      exact hkilled
    · rintro _ crashIn rfl
      exact ⟨rfl, rfl⟩
    · rintro ⟨state, events, crashIn⟩ ⟨hstate, hevents⟩
      cases hstate
      cases hevents
      refine ⟨{ hclean with }, ?_, hyoung, .inl ⟨hnext, rfl, horder, _, rfl⟩⟩
      refine List.lawful_concat.2 ⟨hlawful, nofun, fun other hother => happlied' other ?_⟩
      rwa [horder] at hother
  · have hnext : next ≠ [] := by
      rintro rfl
      exact hrest rfl
    refine meets_read (· = noted.state.marker) (by rintro _ rfl; rfl) ?_
    rintro _ rfl
    refine Meets.ite (fun hopen => ?_) fun _ => meets_changeState ?_ ?_
    · rw [hleaves.marker] at hopen
      cases hopen
    · rintro _ rfl
      exact hkilled
    · rintro _ crashIn rfl
      exact ⟨{ hclean with }, hlawful, hyoung, .inr ⟨rfl, hnext, horder, happlied'⟩⟩

/-- The classes that remain are applied, and the marker goes with the last of them. -/
theorem meets_applyClasses (next done : List RetentionClassName) :
    Meets (Between runtime policy now done next) (applyClasses runtime policy now (classItems next))
      (fun _ => Finished runtime policy now) (KilledResumable runtime) := by
  induction next generalizing done with
  | nil =>
      refine meets_pure fun world hbetween => ?_
      rcases hbetween.marker with ⟨-, hmarker, horder, hremoved⟩ | hleaves
      · exact ⟨hmarker, hremoved, hbetween.lawful, hbetween.young (by rw [← horder]; decide)⟩
      · exact absurd rfl hleaves.next_ne
  | cons className next ih =>
      intro start hbetween
      have hleaves : Leaves policy done (className :: next) start := by
        rcases hbetween.marker with ⟨hnil, -⟩ | hleaves
        · cases hnil
        · exact hleaves
      have hitems : classItems (className :: next) = .str className.text :: classItems next := rfl
      rw [hitems, applyClasses, ofJson?_text]
      have hclass : Meets (· = start) (applyClass runtime policy className now)
          (fun _ world => Within start.state start.events world ∧ (className = .continuation →
            NoOlderResponse runtime (policy.cutoffOf now .continuation) world.state))
          (KilledResumable runtime) := by
        refine (meets_applyClass className hbetween.clean).mono (fun _ h => h) (fun _ _ h => h) ?_
        rintro stop world ⟨hcrashed, hwithin⟩
        refine ⟨hcrashed, .inr ⟨policy, done, _, hleaves.congr hwithin.marker ?_⟩, ?_⟩
        · rw [hwithin.events]
          exact fun _ h => h
        · rw [hwithin.events]
          exact hbetween.lawful
      refine hclass.bind (fun deleted => ?_) start rfl
      rintro world ⟨hwithin, hyoung⟩
      let noted : RetentionWorld := { world with events := world.events ++ [.applied className] }
      have hleave : Meets (· = noted) (leaveMarker (classItems next) policy)
          (fun _ => Between runtime policy now (done ++ [className]) next)
          (KilledResumable runtime) := by
        refine meets_leaveMarker (hbetween.clean.trimmed hwithin.trimmed) ?_ ?_ ?_
          (hleaves.congr hwithin.marker ?_)
        · refine List.lawful_concat.2 ⟨?_, nofun, trivial⟩
          rw [hwithin.events]
          exact hbetween.lawful
        · intro hmem
          rcases List.mem_append.1 hmem with hmem | hmem
          · exact (hbetween.young hmem).trimmed hwithin.trimmed
          · exact hyoung (List.mem_singleton.1 hmem).symm
        · rw [appliedSince_applied]
          exact List.mem_append_right _ (List.mem_singleton_self _)
        · intro other hother
          rw [appliedSince_applied, hwithin.events]
          exact List.mem_append_left _ hother
      have hnote : Meets (· = world) (noteEvent (.applied className)) (fun _ => (· = noted))
          (KilledResumable runtime) := meets_modify (by rintro _ rfl; rfl)
      refine hnote.bind (fun _ => ?_) world rfl
      exact hleave.bind fun _ => (ih (done ++ [className])).bind fun _ => meets_pure fun _ h => h

/-- A policy that is accepted. -/
def RetentionPolicy.Accepted (policy : RetentionPolicy) : Prop := assertRetentionPolicy policy = .ok ()

/-- Where a run that takes up another will not look at the stored responses, none is too old. -/
def YoungIfResumed (runtime : NodeRuntime) (policy : RetentionPolicy) (now : ℤ)
    (state : StateDirectory) : Prop :=
  ∀ items, readMarker state = .ok (some items) → .str "continuation" ∉ items →
    NoOlderResponse runtime (policy.cutoffOf now .continuation) state

/-- From a clean state directory a run applies everything that is left, unless it is killed. -/
theorem meets_applyRetentionPolicy (haccepted : policy.Accepted) {start : RetentionWorld}
    (hclean : start.state.Clean policy now) (hresumable : Resumable start)
    (hlawful : start.events.Lawful (Unfailing runtime))
    (hyoung : YoungIfResumed runtime policy now start.state) :
    Meets (· = start) (applyRetentionPolicy runtime policy now)
      (fun _ => Finished runtime policy now) (KilledResumable runtime) := by
  -- The classes that remain, as the marker or its absence says.
  obtain ⟨existing, done, next, hread, hremaining, hnext, horder, happlied, hyoung'⟩ :
      ∃ existing done next, readMarker start.state = .ok existing ∧
        existing.getD (CLASS_ORDER.map fun className => .str className.text) = classItems next ∧
        next ≠ [] ∧ CLASS_ORDER = done ++ next ∧
        (∀ className ∈ done, className ∈ appliedSince start.events) ∧
        (.continuation ∈ done →
          NoOlderResponse runtime (policy.cutoffOf now .continuation) start.state) := by
    rcases hresumable with habsent | ⟨policy', done, next, hleaves⟩
    · refine ⟨none, [], CLASS_ORDER, ?_, rfl, by decide, rfl, ?_, ?_⟩
      · unfold readMarker
        rw [habsent]
      · intro className hmem
        cases hmem
      · intro hmem
        cases hmem
    · have hread := readMarker_markerText hleaves.marker
      refine ⟨_, done, next, hread, rfl, hleaves.next_ne, hleaves.order, hleaves.applied, ?_⟩
      intro hmem
      refine hyoung _ hread fun hitem => ?_
      obtain ⟨className, hmem', htext⟩ := List.mem_map.1 hitem
      have hcontinuation : className = .continuation := by
        cases className <;> first | rfl | exact absurd (Json.str.inj htext) (by decide)
      rw [hcontinuation] at hmem'
      have hdisjoint := List.disjoint_of_nodup_append
        (show (done ++ next).Nodup by rw [← hleaves.order]; decide)
      exact hdisjoint hmem hmem'
  have hsafe : start.state.marker ≠ .unsafeEntry := by
    intro hopen
    unfold readMarker at hread
    rw [hopen] at hread
    cases hread
  have hkilled : KilledResumable runtime .crashed start := ⟨rfl, hresumable, hlawful⟩
  unfold applyRetentionPolicy
  refine meets_liftRetention_ok haccepted ?_
  refine meets_read (· = true) (by rintro _ rfl; exact hclean.usable) ?_
  rintro _ rfl
  refine meets_read (· = readMarker start.state) (by rintro _ rfl; rfl) ?_
  rintro _ rfl
  refine meets_liftRetention_ok hread ?_
  dsimp only
  rw [hremaining]
  refine Meets.through (fun _ => Between runtime policy now done next) ?_ fun _ =>
    (meets_applyClasses next done).bind fun _ => meets_pure fun _ h => h
  refine meets_read (· = start.state.marker) (by rintro _ rfl; rfl) ?_
  rintro _ rfl
  refine Meets.ite (fun hopen => absurd hopen hsafe) fun _ => meets_changeState ?_ ?_
  · rintro _ rfl
    exact hkilled
  · rintro _ crashIn rfl
    exact ⟨{ hclean with }, hlawful, hyoung', .inr ⟨rfl, hnext, horder, happlied⟩⟩

/-! ## Histories -/

/-- The state directory over time, with what the runs of the retention have done. -/
structure RetentionHistory where
  state : StateDirectory
  events : List RetentionEvent

/-- A run, which may be killed behind some durable changes, or an edit of the directory by others,
who leave the marker alone. -/
inductive RetentionInput
  | run (policy : RetentionPolicy) (now : ℤ) (crashIn : Option ℕ)
  | edit (state : StateDirectory)

namespace RetentionHistory

def step (runtime : NodeRuntime) (history : RetentionHistory) :
    RetentionInput → Option RetentionHistory
  | .run policy now crashIn =>
      match applyRetentionPolicy runtime policy now ⟨history.state, history.events, crashIn⟩ with
      | .ok _ world => some ⟨world.state, world.events ++ [.completed policy now world.state]⟩
      | .error .crashed world => some ⟨world.state, world.events⟩
      | .error (.thrown _) world => some ⟨world.state, world.events ++ [.failed]⟩
  | .edit state => some { history with state := { state with marker := history.state.marker } }

/-- A run starts from a clean state directory, with a policy that is accepted. -/
def Careful (runtime : NodeRuntime) (history : RetentionHistory) : RetentionInput → Prop
  | .run policy now _ => policy.Accepted ∧ history.state.Clean policy now ∧
      YoungIfResumed runtime policy now history.state
  | .edit _ => True

/-- What a history keeps. -/
structure Kept (runtime : NodeRuntime) (history : RetentionHistory) : Prop where
  resumable : Resumable ⟨history.state, history.events, none⟩
  lawful : history.events.Lawful (Unfailing runtime)

/-- A careful step keeps the invariant. -/
theorem Kept.step {history history' : RetentionHistory} {input : RetentionInput}
    (h : history.Kept runtime) (hcareful : history.Careful runtime input)
    (hstep : history.step runtime input = some history') : history'.Kept runtime := by
  obtain ⟨hresumable, hlawful⟩ := h
  cases input with
  | edit state =>
      cases hstep
      refine ⟨?_, hlawful⟩
      rcases hresumable with habsent | ⟨policy, done, next, hleaves⟩
      · exact .inl habsent
      · exact .inr ⟨policy, done, next, hleaves.marker, hleaves.next_ne, hleaves.order,
          hleaves.applied⟩
  | run policy now crashIn =>
      obtain ⟨haccepted, hclean, hyoung⟩ := hcareful
      let start : RetentionWorld := ⟨history.state, history.events, crashIn⟩
      have hresumable' : Resumable start := by
        rcases hresumable with habsent | ⟨policy, done, next, hleaves⟩
        · exact .inl habsent
        · exact .inr ⟨policy, done, next, hleaves.marker, hleaves.next_ne, hleaves.order,
            hleaves.applied⟩
      have hmeets : Meets (· = start) (applyRetentionPolicy runtime policy now)
          (fun _ => Finished runtime policy now) (KilledResumable runtime) :=
        meets_applyRetentionPolicy haccepted hclean hresumable' hlawful hyoung
      have hrun := hmeets start rfl
      rw [RetentionHistory.step] at hstep
      cases hresult : applyRetentionPolicy runtime policy now start with
      | ok result world =>
          rw [hresult] at hrun hstep
          cases hstep
          exact ⟨.inl hrun.marker,
            List.lawful_concat.2 ⟨hrun.lawful, nofun, hrun.removed, hrun.young⟩⟩
      | error stop world =>
          rw [hresult] at hrun hstep
          obtain ⟨rfl, hresumable'', hlawful'⟩ := hrun
          cases hstep
          refine ⟨?_, hlawful'⟩
          rcases hresumable'' with habsent | ⟨policy, done, next, hleaves⟩
          · exact .inl habsent
          · exact .inr ⟨policy, done, next, hleaves.marker, hleaves.next_ne, hleaves.order,
              hleaves.applied⟩

/-- In every history of runs from clean state directories, killed at any point and taken up again,
no run throws, the marker goes only behind all classes, and no run that completes leaves a response
that is too old. -/
theorem unfailing_of_run {state : StateDirectory} (hmarker : state.marker = .absent)
    {inputs : List RetentionInput} {history : RetentionHistory}
    (hrun : List.run (step runtime) ⟨state, []⟩ inputs = some history)
    (hcareful : List.Along (Careful runtime) (step runtime) ⟨state, []⟩ inputs) :
    history.events.Lawful (RetentionLaw runtime) ∧ .failed ∉ history.events := by
  have hkept : history.Kept runtime := by
    refine List.run_induction
      (motive := fun inputs history => List.Along (Careful runtime) (step runtime) ⟨state, []⟩ inputs →
        history.Kept runtime) (fun _ => ⟨.inl hmarker, List.lawful_nil⟩) ?_ hrun hcareful
    intro inputs history input history' hrun ih hstep halong
    obtain ⟨hbefore, hlast⟩ := (List.along_concat hrun).1 halong
    exact (ih hbefore).step hlast hstep
  refine ⟨fun before event after heq => (hkept.lawful before event after heq).2, fun hmem => ?_⟩
  obtain ⟨before, after, heq⟩ := List.append_of_mem hmem
  exact (hkept.lawful before .failed after heq).1 rfl

/-! ## A clean directory and a corrupt one -/

/-- A state directory with nothing in it but the file of one response. -/
def stateWith (id text : String) : StateDirectory where
  usable := true
  marker := .absent
  directories which := ⟨true,
    if which = .responses then .ofList [(id ++ ".json", ⟨.file, true, 0, text⟩)] else .empty⟩
  audit := some []
  credentialStore := true

/-- One file of a response that holds JSON is clean. -/
theorem clean_stateWith (policy : RetentionPolicy) (now : ℤ) {id text : String}
    (hid : isResponseId id = true) (hparse : (Json.parse text).isSome = true) :
    (stateWith id text).Clean policy now where
  usable := rfl
  logs _ name entry hentry := by cases hentry
  backups _ name entry hentry := by cases hentry
  responses := rfl
  records name entry hentry _ := by
    have hget : (OrderedMap.empty.set (id ++ ".json") ⟨.file, true, 0, text⟩).get? name =
        some entry := hentry
    rw [OrderedMap.get?_set] at hget
    split at hget
    · rename_i hname
      cases hget
      exact ⟨rfl, hparse, id, hid, hname.symm⟩
    · cases hget
  credentialStore := rfl
  quarantine _ name entry hentry := by cases hentry

/-- The record of a response of 2020. -/
def agedResponse : String :=
  "\x7b\"id\":\"resp_old\",\"createdAt\":\"2020-01-01T00:00:00.000Z\",\"model\":\"m\",\"messages\":[]\x7d"

/-- A run of the retention in 2026. -/
def retentionOf2026 : List RetentionInput := [.run DEFAULT_RETENTION_POLICY 1767225600000 none]

theorem unfailing_of_agedResponse :
    ∃ history, List.run (step isoRuntime) ⟨stateWith "resp_old" agedResponse, []⟩ retentionOf2026 =
        some history ∧ history.events.Lawful (RetentionLaw isoRuntime) ∧ .failed ∉ history.events := by
  have hsome : ∀ start : RetentionHistory,
      (List.run (step isoRuntime) start retentionOf2026).isSome = true := by
    intro start
    rw [retentionOf2026, List.run, step]
    split <;> rfl
  obtain ⟨history, hrun⟩ := Option.isSome_iff_exists.1 (hsome ⟨stateWith "resp_old" agedResponse, []⟩)
  refine ⟨history, hrun, unfailing_of_run rfl hrun (List.along_cons.2 ⟨⟨rfl, ?_, ?_⟩, ?_⟩)⟩
  · exact clean_stateWith _ _ (by decide) (by decide +kernel)
  · rintro items ⟨⟩
  · exact fun _ _ => List.along_nil _

/-- A file of a response that was cut off. -/
def cutOffResponse : String := "\x7b\"id\":\"resp_cut\","

/-- The classes that a run that throws has applied. -/
def appliedThrowing : EStateM.Result RetentionStop RetentionWorld RetentionRun →
    Option (List RetentionClassName)
  | .error (.thrown _) world => some (appliedSince world.events)
  | _ => none

/-- A response that was cut off stops the run behind the audit, and the backups and credentials are
not looked at. -/
theorem unfailing_violated :
    ∃ history, List.run (step isoRuntime) ⟨stateWith "resp_cut" cutOffResponse, []⟩ retentionOf2026 =
        some history ∧ ¬ history.events.Lawful (RetentionLaw isoRuntime) := by
  have happlied : appliedThrowing (applyRetentionPolicy isoRuntime DEFAULT_RETENTION_POLICY
      1767225600000 ⟨stateWith "resp_cut" cutOffResponse, [], none⟩) = some [.logs, .audit] := by
    decide +kernel
  rw [retentionOf2026, List.run, step]
  cases hresult : applyRetentionPolicy isoRuntime DEFAULT_RETENTION_POLICY 1767225600000
      ⟨stateWith "resp_cut" cutOffResponse, [], none⟩ with
  | ok result world =>
      rw [hresult] at happlied
      cases happlied
  | error stop world =>
      rw [hresult] at happlied
      cases stop with
      | crashed => cases happlied
      | thrown error =>
          refine ⟨_, rfl, fun h => ?_⟩
          obtain ⟨bad, hothers⟩ := h world.events .failed [] rfl
          rw [show appliedSince world.events = [.logs, .audit] from Option.some.inj happlied] at hothers
          have hbackups : bad = .backups := by
            by_contra hne
            exact absurd (hothers .backups (by decide) (Ne.symm hne)) (by decide)
          exact absurd (hothers .expiredCredentials (by decide) (by rw [hbackups]; decide)) (by decide)

end RetentionHistory

end RlyGateway
