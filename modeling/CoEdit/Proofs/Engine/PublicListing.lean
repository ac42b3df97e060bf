import CoEdit.Proofs.Engine.Joining

/-!
# What the Public Listing Comes To

The public listing shows the sessions that were created to be public, have not ended, and have a
free place. It says of them what everybody else is told, and what it promises holds: whoever has an
id can join a session that is listed, and no newcomer but a lecturer can join a public one that is
not.

## Main definitions

* `Listing.Agrees`: a listing says of a session what a view of the session says.
* `Engine.CreatedWith`: a session was created in the course of a run, with these options.
* `Engine.ListsPublic`: what a list of listings has to do with the sessions after a run.

## Main results

* `mem_publicSessions`: which listings there are.
* `CreatedWith.unique`: a session is created once.
* `publicSessions_listsPublic`: the listing after every run, in every order of the sessions.
* `join_public_without_id`: being let in or told that there is no place takes an id.
-/

namespace CoEdit

open CoEdit.Time (Instant)

/-- A listing says of a session what a view of the session says, and shows the name under which its
host is on the roster. -/
structure Listing.Agrees (listing : Listing) (view : Snapshot) : Prop where
  id : listing.id = view.id
  title : listing.title = view.title
  assignmentId : listing.assignmentId = view.assignmentId
  hostId : listing.hostId = view.hostId
  status : listing.status = view.status
  language : listing.language = view.language
  onlineCount : listing.onlineCount = view.onlineCount
  maxParticipants : listing.maxParticipants = view.maxParticipants
  createdAt : listing.createdAt = view.createdAt
  hostName : ∃ host ∈ view.participants, host.userId = view.hostId ∧
    host.userName = listing.hostName

namespace Session

variable {s : Session} {userId : String} {role : Role}

/-- The public sessions that the listing leaves out have ended, or are full. -/
theorem isListed_iff : s.isListed = true ↔
    s.isPublic = true ∧ s.status ≠ .ended ∧ s.onlineCount < s.maxParticipants := by
  have hopen : s.status.isOpen = true ↔ s.status ≠ .ended := by
    cases s.status <;> decide
  rw [isListed, Bool.and_eq_true, Bool.and_eq_true, decide_eq_true_eq, hopen, and_assoc]

/-- The host of a session that has not ended is on its roster, so the listing shows their name. -/
theorem Sound.agrees (h : s.Sound) (hopen : s.status ≠ .ended) :
    s.listing.Agrees s.snapshot := by
  obtain ⟨host, hhost, -⟩ := isOnline_iff.mp (h.host_online hopen)
  have hname : s.listing.hostName = host.userName := by
    rw [listing, hhost]
    rfl
  obtain ⟨hmem, hid⟩ := mem_of_participant? hhost
  exact ⟨rfl, rfl, rfl, rfl, rfl, rfl, rfl, rfl, rfl, host, hmem, hid, hname.symm⟩

/-- A full session has no place for a newcomer who needs one. -/
theorem not_admits_of_newcomer (hfull : s.maxParticipants ≤ s.onlineCount)
    (hnew : s.participant? userId = none) (hrole : role ≠ .lecturer) : ¬s.Admits userId role := by
  rw [← isFullFor_iff]
  refine ⟨isOnline_of_none hnew, hfull, ?_⟩
  rw [effectiveRole, hnew]
  exact hrole

end Session

namespace Engine

variable {config : Config} {e : Engine} {seated : String → String → Prop}
  {sessionId : String} {s : Session} {xs : List Event} {options other : SessionOptions}
  {listing : Listing}

/-! ### The listing -/

/-- **Which listings there are.** -/
theorem Seating.mem_publicSessions (h : e.Seating seated) : listing ∈ e.publicSessions ↔
    ∃ s, e.sessions.get? listing.id = some s ∧ s.isListed = true ∧ s.listing = listing := by
  simp only [publicSessions, List.mem_mergeSort, List.mem_map, List.mem_filter, Table.values]
  constructor
  · rintro ⟨s, ⟨⟨⟨key, t⟩, hentry, rfl⟩, hlisted⟩, rfl⟩
    have hget := Table.mem_entries_iff.mp hentry
    obtain rfl := h.id_eq hget
    exact ⟨t, hget, hlisted, rfl⟩
  · rintro ⟨s, hget, hlisted, hlisting⟩
    exact ⟨s, ⟨⟨(listing.id, s), Table.mem_entries_iff.mpr hget, rfl⟩, hlisted⟩, hlisting⟩

/-- A session of the directory is listed if it is to be. -/
theorem Seating.isListed_iff_mem (h : e.Seating seated)
    (hs : e.sessions.get? sessionId = some s) :
    sessionId ∈ e.publicSessions.map Listing.id ↔ s.isListed = true := by
  rw [List.mem_map]
  constructor
  · rintro ⟨listing, hlisting, rfl⟩
    obtain ⟨t, ht, hlisted, -⟩ := h.mem_publicSessions.mp hlisting
    obtain rfl := Option.some.inj (hs.symm.trans ht)
    exact hlisted
  · intro hlisted
    obtain rfl := h.id_eq hs
    exact ⟨s.listing, h.mem_publicSessions.mpr ⟨s, hs, hlisted, rfl⟩, rfl⟩

/-- No session is listed twice. -/
theorem Seating.nodup_publicSessions (h : e.Seating seated) :
    (e.publicSessions.map Listing.id).Nodup := by
  refine ((List.mergeSort_perm _ _).map Listing.id).nodup_iff.mpr ?_
  rw [List.map_map]
  exact h.nodup_ids Session.isListed

/-- The newest sessions come first. -/
theorem pairwise_publicSessions (e : Engine) :
    e.publicSessions.Pairwise fun a b => b.createdAt ≤ a.createdAt := by
  refine (List.pairwise_mergeSort ?_ ?_ _).imp of_decide_eq_true
  · intro a b c hba hcb
    rw [decide_eq_true_eq] at hba hcb ⊢
    exact le_trans hcb hba
  · intro a b
    rw [Bool.or_eq_true, decide_eq_true_eq, decide_eq_true_eq]
    exact le_total _ _

/-! ### How sessions are created -/

/-- A session was created in the course of a run, with these options. -/
def CreatedWith (config : Config) (sessionId : String) (xs : List Event)
    (options : SessionOptions) : Prop :=
  ∃ past now hostId hostName assignmentId rest snapshot,
    xs = past ++ .give now (.create hostId hostName assignmentId options) :: rest ∧
    (((Engine.new config).through past).step now
      (.create hostId hostName assignmentId options)).1 = .ok (.session snapshot) ∧
    snapshot.id = sessionId

/-- What has happened in the course of a run has happened when the run goes on. -/
theorem CreatedWith.concat (h : CreatedWith config sessionId xs options) (x : Event) :
    CreatedWith config sessionId (xs ++ [x]) options := by
  obtain ⟨past, now, hostId, hostName, assignmentId, rest, snapshot, rfl, hcreated⟩ := h
  exact ⟨past, now, hostId, hostName, assignmentId, rest ++ [x], snapshot, by simp, hcreated⟩

/-- There is nothing on record of a session before it is created, and something afterwards. -/
theorem Coherent.of_creation (h : e.Coherent) {now : Clock}
    {hostId hostName assignmentId : String} {snapshot : Snapshot}
    (hcreated : (e.step now (.create hostId hostName assignmentId options)).1 =
      .ok (.session snapshot)) (hid : snapshot.id = sessionId) :
    (e.dossier sessionId).recording.facts = [] ∧
      ((e.step now (.create hostId hostName assignmentId options)).2.dossier
        sessionId).recording.facts ≠ [] := by
  have hmoved := h.step_dossier now (.create hostId hostName assignmentId options) sessionId
  have hcreation : Moment.creation? ⟨now, .create hostId hostName assignmentId options,
      (e.step now (.create hostId hostName assignmentId options)).1⟩ sessionId =
        some snapshot := by
    simp only [Moment.creation?, hcreated, hid, if_true]
  rcases hmoved with hstep | ⟨hblank, hbegun⟩
  · rw [hstep.creation?_eq_none] at hcreation
    cases hcreation
  · rw [hblank]
    exact ⟨rfl, (Dossier.Since.begun hbegun).facts_ne_nil⟩

/-- What has been created is on record. -/
theorem CreatedWith.facts_ne_nil (h : CreatedWith config sessionId xs options) :
    (((Engine.new config).through xs).dossier sessionId).recording.facts ≠ [] := by
  obtain ⟨past, now, _, _, _, rest, snapshot, rfl, hcreated, hid⟩ := h
  have hpast : ((Engine.new config).through past).Reachable config := Reachable.new.through past
  have hseen := (hpast.coherent.of_creation hcreated hid).2
  rw [through_append]
  exact (hpast.meet (.give now (.create _ _ _ options))).facts_ne_nil_through hseen rest

/-- What has been created is not created again. -/
theorem CreatedWith.id_ne (h : CreatedWith config sessionId xs options) {now : Clock}
    {hostId hostName assignmentId : String} {snapshot : Snapshot}
    (hcreated : (((Engine.new config).through xs).step now
      (.create hostId hostName assignmentId other)).1 = .ok (.session snapshot)) :
    snapshot.id ≠ sessionId := fun hid =>
  h.facts_ne_nil ((Reachable.new.through xs).coherent.of_creation hcreated hid).1

/-- **A session is created once.** -/
theorem CreatedWith.unique (h : CreatedWith config sessionId xs options)
    (h' : CreatedWith config sessionId xs other) : other = options := by
  obtain ⟨past, now, _, _, _, rest, snapshot, rfl, hfirst, hid⟩ := h
  obtain ⟨past', now', _, _, _, rest', snapshot', hxs, hsecond, hid'⟩ := h'
  -- It is the same event, or one of them comes first.
  rcases List.append_eq_append_iff.mp hxs with ⟨between, rfl, hrest⟩ | ⟨between, rfl, hrest⟩
  · cases between with
    | nil =>
        cases hrest
        rfl
    | cons x mid =>
        obtain ⟨rfl, -⟩ := List.cons.inj hrest
        exact absurd hid' (id_ne ⟨past, now, _, _, _, mid, snapshot, rfl, hfirst, hid⟩ hsecond)
  · cases between with
    | nil =>
        cases hrest
        rfl
    | cons x mid =>
        obtain ⟨rfl, -⟩ := List.cons.inj hrest
        exact absurd hid (id_ne ⟨past', now', _, _, _, mid, snapshot', rfl, hsecond, hid'⟩ hfirst)

/-- A session that is there was created in the course of the run, and is public if it was created
to be. -/
theorem exists_createdWith
    (hs : ((Engine.new config).through xs).sessions.get? sessionId = some s) :
    ∃ options, CreatedWith config sessionId xs options ∧ s.isPublic = options.isPublic := by
  refine session_through (P := fun xs s => ∃ options, CreatedWith config sessionId xs options ∧
    s.isPublic = options.isPublic) ?_ ?_ ?_ xs s hs
  · intro xs now command d s hbegun hs
    cases hbegun with
    | @created hostId hostName assignmentId options _ _ hcommand hsettings hstart hanswer =>
        obtain rfl := Option.some.inj hs
        subst hstart
        obtain rfl : command = _ := hcommand
        exact ⟨options, ⟨xs, now, hostId, hostName, assignmentId, [], _, rfl, hanswer, rfl⟩,
          (settingsFor_ok hsettings).2.1⟩
  · rintro xs now command s facts notices s' hturn - - ⟨options, hcreated, hpublic⟩
    exact ⟨options, hcreated.concat _, hturn.sameTerms.isPublic.trans hpublic⟩
  · rintro xs x s ⟨options, hcreated, hpublic⟩
    exact ⟨options, hcreated.concat x, hpublic⟩

/-! ### What the listing promises -/

/-- What a list of listings has to do with the sessions that are there after a run. -/
structure ListsPublic (config : Config) (xs : List Event) (e : Engine)
    (listings : List Listing) : Prop where
  newestFirst : listings.Pairwise fun a b => b.createdAt ≤ a.createdAt
  /-- No session is listed twice. -/
  distinct : (listings.map Listing.id).Nodup
  /-- What is listed is there, and is what it is said to be. -/
  agrees : ∀ listing ∈ listings, ∃ view, e.snapshot? listing.id = some view ∧
    listing.Agrees view
  /-- Every session was created once. -/
  created : ∀ key s, e.sessions.get? key = some s → ∃! options, CreatedWith config key xs options
  /-- Listed is what was created to be public, has not ended, and has a free place. -/
  mem_iff : ∀ key s options, e.sessions.get? key = some s → CreatedWith config key xs options →
    (key ∈ listings.map Listing.id ↔
      options.isPublic = true ∧ s.status ≠ .ended ∧ s.onlineCount < s.maxParticipants)
  /-- Whoever has an id can join what is listed, in every role. -/
  admits : ∀ key ∈ listings.map Listing.id, ∀ userId userName role now,
    Text.isBlank userId = false →
      ∃ view e', e.join key userId userName role now = .ok (view, e')
  /-- No newcomer but a lecturer can join what is public and not listed. -/
  refuses : ∀ key s options, e.sessions.get? key = some s → CreatedWith config key xs options →
    options.isPublic = true → key ∉ listings.map Listing.id →
      ∀ userId userName role now, Text.isBlank userId = false →
        s.participant? userId = none → role ≠ .lecturer →
          e.join key userId userName role now =
              .error (.sessionInactive key .ended [.waiting, .active]) ∨
            e.join key userId userName role now = .error (.sessionFull key s.maxParticipants)

/-- What is listed lets in everybody who has an id. -/
theorem Reachable.exists_join_of_isListed (he : e.Reachable config)
    (hs : e.sessions.get? sessionId = some s) (hlisted : s.isListed = true) {userId : String}
    (huser : Text.isBlank userId = false) (userName : String) (role : Role) (now : Clock) :
    ∃ view e', e.join sessionId userId userName role now = .ok (view, e') := by
  obtain ⟨-, hopen, hplace⟩ := Session.isListed_iff.mp hlisted
  have hadmits : s.Admits userId role := .inr (.inl hplace)
  obtain ⟨s', entry, e', hjoin, -⟩ := he.exists_letsIn hs hopen huser hadmits userName now
  exact ⟨_, e', hjoin⟩

/-- What is public and not listed has no place for a newcomer who needs one. -/
theorem Reachable.join_of_not_isListed (he : e.Reachable config)
    (hs : e.sessions.get? sessionId = some s) (hpublic : s.isPublic = true)
    (hlisted : s.isListed ≠ true) {userId : String} {role : Role}
    (huser : Text.isBlank userId = false) (hnew : s.participant? userId = none)
    (hrole : role ≠ .lecturer) (userName : String) (now : Clock) :
    e.join sessionId userId userName role now =
        .error (.sessionInactive sessionId .ended [.waiting, .active]) ∨
      e.join sessionId userId userName role now =
        .error (.sessionFull sessionId s.maxParticipants) := by
  obtain rfl := he.coherent.balanced.id_eq hs
  rw [join_of_session he hs huser]
  by_cases hended : s.status = .ended
  · left
    rw [Session.join_of_ended hended]
    rfl
  · right
    have hfull : s.maxParticipants ≤ s.onlineCount := not_lt.mp fun hplace =>
      hlisted (Session.isListed_iff.mpr ⟨hpublic, hended, hplace⟩)
    rw [Session.join_of_full hended (Session.not_admits_of_newcomer hfull hnew hrole)]
    rfl

/-- **The public listing is exact and keeps its promises**, after every run and in whatever order
the sessions are visited. -/
theorem publicSessions_listsPublic (config : Config) (xs : List Event) (order : Table Session)
    (horder : order.entries.Perm ((Engine.new config).through xs).sessions.entries) :
    ListsPublic config xs ((Engine.new config).through xs)
      (((Engine.new config).through xs).visiting order).publicSessions := by
  have he : ((Engine.new config).through xs).Reachable config := Reachable.new.through xs
  have hsame := Table.get?_eq_of_perm horder
  have hseating := (he.wellKept.visiting hsame).coherent.balanced
  have hmem : ∀ {key s}, ((Engine.new config).through xs).sessions.get? key = some s →
      (key ∈ (((Engine.new config).through xs).visiting order).publicSessions.map Listing.id ↔
        s.isListed = true) := fun {key s} hs => hseating.isListed_iff_mem ((hsame key).trans hs)
  have hpublic : ∀ {key s options},
      ((Engine.new config).through xs).sessions.get? key = some s →
        CreatedWith config key xs options → s.isPublic = options.isPublic := by
    intro key s options hs hcreated
    obtain ⟨other, hother, hpublic⟩ := exists_createdWith hs
    exact hpublic.trans (congrArg _ (hcreated.unique hother))
  refine ⟨pairwise_publicSessions _, hseating.nodup_publicSessions, ?_, ?_, ?_, ?_, ?_⟩
  · intro listing hlisting
    obtain ⟨s, hs, hlisted, rfl⟩ := hseating.mem_publicSessions.mp hlisting
    replace hs := (hsame _).symm.trans hs
    refine ⟨s.snapshot, congrArg (Option.map Session.snapshot) hs, ?_⟩
    exact (he.sound hs).agrees (Session.isListed_iff.mp hlisted).2.1
  · intro key s hs
    obtain ⟨options, hcreated, -⟩ := exists_createdWith hs
    exact ⟨options, hcreated, fun other hother => hcreated.unique hother⟩
  · intro key s options hs hcreated
    rw [hmem hs, Session.isListed_iff, hpublic hs hcreated]
  · intro key hkey userId userName role now huser
    obtain ⟨listing, hlisting, rfl⟩ := List.mem_map.mp hkey
    obtain ⟨s, hs, hlisted, -⟩ := hseating.mem_publicSessions.mp hlisting
    replace hs := (hsame _).symm.trans hs
    exact he.exists_join_of_isListed hs hlisted huser userName role now
  · intro key s options hs hcreated hasked hunlisted userId userName role now huser hnew hrole
    rw [hmem hs] at hunlisted
    exact he.join_of_not_isListed hs ((hpublic hs hcreated).trans hasked) hunlisted huser hnew
      hrole userName now

/-- Ada's session is public and full, Bob's is not public, and those of Cy and Dan are public. -/
def publicAndPrivate : List Event :=
  [.give (.still ⟨0, 0⟩)
      (.create "ada" "Ada" "primes" { isPublic := true, maxParticipants := some 1 }),
    .give (.still ⟨1, 0⟩) (.create "bob" "Bob" "primes" {}),
    .give (.still ⟨2, 0⟩) (.create "cy" "Cy" "primes" { isPublic := true }),
    .give (.still ⟨3, 0⟩) (.create "dan" "Dan" "primes" { isPublic := true })]

/-- Dan's session is listed before that of Cy, which Eve can join. She cannot join that of Ada. -/
theorem publicSessions_listsPublic_publicAndPrivate :
    let e := (Engine.new .default).through publicAndPrivate
    let order := e.sessions.reversed
    let listings := (e.visiting order).publicSessions
    order.entries.Perm e.sessions.entries ∧ listings.map Listing.id = ["$s3", "$s2"] ∧
      ListsPublic .default publicAndPrivate e listings ∧
      (∃ view e', e.join "$s2" "eve" "Eve" .host (.still ⟨4, 0⟩) = .ok (view, e')) ∧
      e.join "$s0" "eve" "Eve" .host (.still ⟨4, 0⟩) = .error (.sessionFull "$s0" 1) := by
  intro e order listings
  have horder : order.entries.Perm e.sessions.entries := e.sessions.entries.reverse_perm
  have hids : listings.map Listing.id = ["$s3", "$s2"] := by
    -- Sorting leaves them in the order in which they are visited.
    change (List.mergeSort _ _).map Listing.id = _
    rw [List.mergeSort_of_pairwise (by decide +kernel)]
    decide +kernel
  have hlists := publicSessions_listsPublic .default publicAndPrivate order horder
  have hcy : "$s2" ∈ listings.map Listing.id := by
    rw [hids]
    decide
  have hfull : e.refusal? "$s0" "eve" .host = some (.sessionFull "$s0" 1) := by decide +kernel
  have he : e.Reachable .default := Reachable.new.through publicAndPrivate
  exact ⟨horder, hids, hlists,
    hlists.admits "$s2" hcy "eve" "Eve" .host (.still ⟨4, 0⟩) (by decide),
    he.join_of_refusal hfull "Eve" (.still ⟨4, 0⟩)⟩

/-- A public session with a place for its host alone. -/
def onePlace : List Event :=
  [.give (.still ⟨0, 0⟩)
    (.create "ada" "Ada" "primes" { isPublic := true, maxParticipants := some 1 })]

/-- Whoever has no id is not told that there is no place for them, but that the id is missing. -/
theorem join_public_without_id :
    let e := (Engine.new .default).through onePlace
    ∃ s, e.sessions.get? "$s0" = some s ∧
      CreatedWith .default "$s0" onePlace { isPublic := true, maxParticipants := some 1 } ∧
      "$s0" ∉ e.publicSessions.map Listing.id ∧ s.participant? "" = none ∧
      Role.participant ≠ .lecturer ∧
      e.join "$s0" "" "Nobody" .participant (.still ⟨1, 0⟩) = .error (.missingField .userId) := by
  intro e
  have he : e.Reachable .default := Reachable.new.through onePlace
  have hsession : ∃ s ∈ e.sessions.get? "$s0", s.participant? "" = none := by decide +kernel
  have hunlisted : "$s0" ∉ e.publicSessions.map Listing.id := by decide +kernel
  have hrefusal : e.refusal? "$s0" "" .participant = some (.missingField .userId) := by
    decide +kernel
  have hcreated : ∃ snapshot, ((Engine.new .default).step (.still ⟨0, 0⟩)
      (.create "ada" "Ada" "primes" { isPublic := true, maxParticipants := some 1 })).1 =
        .ok (.session snapshot) ∧ snapshot.id = "$s0" := ⟨_, rfl, by decide +kernel⟩
  obtain ⟨s, hs, hnew⟩ := hsession
  obtain ⟨snapshot, hanswer, hid⟩ := hcreated
  exact ⟨s, hs, ⟨[], .still ⟨0, 0⟩, "ada", "Ada", "primes", [], snapshot, rfl, hanswer, hid⟩,
    hunlisted, hnew, nofun, he.join_of_refusal hrefusal "Nobody" (.still ⟨1, 0⟩)⟩

end Engine

end CoEdit
