import PycloudParallel.LocalRegistryModel

/-!
# A registry entry belongs to a live server

What a party has read and means to act on stays harmless: an entry to be
discarded is of a server that is not live, and a start between its read and its
own replacement has no live server beside it.
-/

namespace PycloudParallel.LocalRegistry

def Server.isBound (server : Server) : Bool :=
  (server.start = .writing || server.start = .replacing || server.start = .serving) &&
    server.close = .notCalled && server.alive && !server.stopRequested

theorem Server.isBound_of_isLive {server : Server} (hlive : server.isLive = true) :
    server.isBound = true := by
  simp only [isLive, Bool.and_eq_true, decide_eq_true_eq, Bool.not_eq_true'] at hlive
  simp [isBound, hlive]

theorem Server.isLive_of_isBound {server : Server} (hbound : server.isBound = true)
    (hstart : server.start = .serving) : server.isLive = true := by
  simp only [isBound, Bool.and_eq_true, Bool.not_eq_true'] at hbound
  simp [isLive, hstart, hbound]

namespace System

def isPublished (s : System) (entry : ℕ) : Bool :=
  s.servers[entry]?.any fun server => server.start = .serving

def noneLive (s : System) : Prop :=
  ∀ id, ¬ s.isLive id = true

def startFits (s : System) : StartPhase → Prop
  | .pinging entry =>
    s.isPublished entry = true ∧ ∀ id, s.isLive id = true → id = entry
  | .removing | .unlinking | .binding | .writing | .replacing => s.noneLive
  | .idle | .serving | .refused => True

structure ServerFits (s : System) (id : ℕ) (server : Server) : Prop where
  start : s.startFits server.start
  bound : server.isBound = true → server.listening = true ∧ id ∈ s.sockets
  owns : server.close = .ownsMetadata → s.registry = none ∨ s.registry = some id

def actorFits (s : System) : Actor → Prop
  | .constructStale entry | .constructPing entry | .cleanupPing entry =>
    s.isPublished entry = true
  | .stopping entry | .discard entry | .discardSocket entry =>
    s.isPublished entry = true ∧ ¬ s.isLive entry = true
  | .discardMetadata entry =>
    (s.isPublished entry = true ∧ ¬ s.isLive entry = true) ∧
      (s.registry = none ∨ s.registry = some entry)
  | .idle | .calling _ | .refreshing _ | .streaming _ | .streamRefreshing _
  | .streamingAgain _ => True

structure Sound (s : System) : Prop where
  live : ∀ id, s.isLive id = true → s.registry = some id
  registry : ∀ entry, s.registry = some entry → s.isPublished entry = true
  servers : ∀ id server, s.servers[id]? = some server → s.ServerFits id server
  clients : ∀ entry ∈ s.clients, s.isPublished entry = true
  actors : ∀ actor ∈ s.actors, s.actorFits actor

structure Calm (s t : System) : Prop where
  live : ∀ id, t.isLive id = true → s.isLive id = true
  published : ∀ id, s.isPublished id = true → t.isPublished id = true
  registry : t.registry = s.registry ∨ t.registry = none

variable {s t : System}

theorem startFits_of_calm (hcalm : Calm s t) {phase : StartPhase}
    (hfits : s.startFits phase) : t.startFits phase := by
  have hnone (hnone : s.noneLive) : t.noneLive := fun id hlive =>
    hnone id (hcalm.live id hlive)
  cases phase with
  | pinging entry =>
    exact ⟨hcalm.published entry hfits.1, fun id hlive =>
      hfits.2 id (hcalm.live id hlive)⟩
  | removing | unlinking | binding | writing | replacing => exact hnone hfits
  | idle | serving | refused => trivial

theorem registry_of_calm (hcalm : Calm s t) {entry : ℕ}
    (hregistry : s.registry = none ∨ s.registry = some entry) :
    t.registry = none ∨ t.registry = some entry := by
  cases hcalm.registry with
  | inl hsame =>
    rw [hsame]
    exact hregistry
  | inr hnone => exact Or.inl hnone

theorem actorFits_of_calm (hcalm : Calm s t) {actor : Actor}
    (hfits : s.actorFits actor) : t.actorFits actor := by
  have hgone {entry : ℕ} (hgone : s.isPublished entry = true ∧ ¬ s.isLive entry = true) :
      t.isPublished entry = true ∧ ¬ t.isLive entry = true :=
    ⟨hcalm.published entry hgone.1, fun hlive => hgone.2 (hcalm.live entry hlive)⟩
  cases actor with
  | constructStale entry | constructPing entry | cleanupPing entry =>
    exact hcalm.published entry hfits
  | stopping entry | discard entry | discardSocket entry => exact hgone hfits
  | discardMetadata entry => exact ⟨hgone hfits.1, registry_of_calm hcalm hfits.2⟩
  | _ => trivial

theorem Sound.of_calm (hs : s.Sound) (hcalm : Calm s t)
    (hremoved : t.registry = none → s.registry = none ∨ s.noneLive)
    (hservers : ∀ id server, t.servers[id]? = some server → t.ServerFits id server)
    (hclients : ∀ entry ∈ t.clients, t.isPublished entry = true)
    (hactors : ∀ actor ∈ t.actors, t.actorFits actor) : t.Sound where
  live id hlive := by
    have hentry := hs.live id (hcalm.live id hlive)
    cases hcalm.registry with
    | inl hsame => rw [hsame, hentry]
    | inr hnone =>
      cases hremoved hnone with
      | inl hempty =>
        rw [hentry] at hempty
        cases hempty
      | inr hdead => exact absurd (hcalm.live id hlive) (hdead id)
  registry entry hentry := by
    cases hcalm.registry with
    | inl hsame =>
      rw [hsame] at hentry
      exact hcalm.published entry (hs.registry entry hentry)
    | inr hnone =>
      rw [hnone] at hentry
      cases hentry
  servers := hservers
  clients := hclients
  actors := hactors

end System

theorem any_getElem?_set_iff {α : Type*} {items : List α} {index : ℕ} {old : α}
    (hold : items[index]? = some old) (new : α) (p : α → Bool) (other : ℕ) :
    (items.set index new)[other]?.any p = true ↔
      if index = other then p new = true else items[other]?.any p = true := by
  have hlength : index < items.length := (List.getElem?_eq_some_iff.mp hold).1
  rw [List.getElem?_set]
  by_cases hsame : index = other
  · rw [if_pos hsame, if_pos hsame, if_pos hlength, Option.any_some]
  · rw [if_neg hsame, if_neg hsame]

namespace System

section

variable {s : System} {id : ℕ} {old new : Server}

section

variable (hold : s.servers[id]? = some old)

include hold

theorem isLive_setServer (other : ℕ) :
    (s.setServer id new).isLive other = true ↔
      if id = other then new.isLive = true else s.isLive other = true :=
  any_getElem?_set_iff hold new Server.isLive other

theorem isPublished_setServer (other : ℕ) :
    (s.setServer id new).isPublished other = true ↔
      if id = other then new.start = .serving else s.isPublished other = true := by
  have hset := any_getElem?_set_iff hold new (fun server => server.start = .serving) other
  rw [decide_eq_true_eq] at hset
  exact hset

theorem isLive_of_getElem? : s.isLive id = old.isLive := by
  rw [isLive, hold, Option.any_some]

theorem isPublished_of_getElem? :
    s.isPublished id = true ↔ old.start = .serving := by
  rw [isPublished, hold, Option.any_some, decide_eq_true_eq]

end

theorem Sound.setServer (hs : s.Sound) (hold : s.servers[id]? = some old)
    (hlive : new.isLive = true → old.isLive = true)
    (hserving : old.start = .serving → new.start = .serving)
    (registry tmp : Option ℕ) (sockets : List ℕ)
    (hregistry : registry = s.registry ∨ registry = none ∧ s.noneLive)
    (hsockets : ∀ other ∈ s.sockets, other ≠ id → other ∈ sockets)
    (hstart : s.startFits new.start)
    (hbound : new.isBound = true → new.listening = true ∧ id ∈ sockets)
    (howns : new.close = .ownsMetadata → registry = none ∨ registry = some id) :
    Sound { s.setServer id new with
      registry := registry, tmp := tmp, sockets := sockets } := by
  have hcalm : Calm s { s.setServer id new with
      registry := registry, tmp := tmp, sockets := sockets } := by
    refine ⟨?_, ?_, ?_⟩
    · intro other hother
      have hother := (isLive_setServer hold other).mp hother
      by_cases hsame : id = other
      · rw [if_pos hsame] at hother
        rw [← hsame, isLive_of_getElem? hold]
        exact hlive hother
      · rw [if_neg hsame] at hother
        exact hother
    · intro other hother
      apply (isPublished_setServer hold other).mpr
      by_cases hsame : id = other
      · rw [if_pos hsame]
        rw [← hsame] at hother
        exact hserving ((isPublished_of_getElem? hold).mp hother)
      · rw [if_neg hsame]
        exact hother
    · exact hregistry.imp_right And.left
  refine hs.of_calm hcalm ?_ ?_ ?_ ?_
  · intro hnone
    cases hregistry with
    | inl hsame => exact Or.inl (hsame.symm.trans hnone)
    | inr hdead => exact Or.inr hdead.2
  · intro other server hserver
    dsimp only [System.setServer] at hserver
    rw [List.getElem?_set] at hserver
    by_cases hsame : id = other
    · have hlength : id < s.servers.length := (List.getElem?_eq_some_iff.mp hold).1
      rw [if_pos hsame, if_pos hlength, Option.some.injEq] at hserver
      rw [← hserver, ← hsame]
      exact ⟨startFits_of_calm hcalm hstart, hbound, howns⟩
    · rw [if_neg hsame] at hserver
      have hfits := hs.servers other server hserver
      refine ⟨startFits_of_calm hcalm hfits.start, ?_, fun hcompared =>
        registry_of_calm hcalm (hfits.owns hcompared)⟩
      intro hother
      exact ⟨(hfits.bound hother).1,
        hsockets other (hfits.bound hother).2 (Ne.symm hsame)⟩
  · intro entry hmem
    exact hcalm.published entry (hs.clients entry hmem)
  · intro actor hmem
    exact actorFits_of_calm hcalm (hs.actors actor hmem)

theorem Sound.setServer_only (hs : s.Sound) (hold : s.servers[id]? = some old)
    (hlive : new.isLive = true → old.isLive = true)
    (hserving : old.start = .serving → new.start = .serving)
    (hstart : s.startFits new.start)
    (hbound : new.isBound = true → new.listening = true ∧ id ∈ s.sockets)
    (howns : new.close = .ownsMetadata → s.registry = none ∨ s.registry = some id) :
    Sound (s.setServer id new) :=
  hs.setServer hold hlive hserving s.registry s.tmp s.sockets (Or.inl rfl)
    (fun _ hmem _ => hmem) hstart hbound howns

end

variable {server : Server} {entry : ℕ}

theorem not_isLive_of_start (hstart : server.start ≠ .serving) :
    ¬ server.isLive = true := by
  intro hlive
  simp only [Server.isLive, Bool.and_eq_true, decide_eq_true_eq] at hlive
  exact hstart hlive.1.1.1

theorem Sound.startMove {s : System} {id : ℕ} (hs : s.Sound)
    (hserver : s.servers[id]? = some server) (phase : StartPhase)
    (hbefore : server.start ≠ .serving)
    (hafter : phase ≠ .serving ∧ phase ≠ .writing ∧ phase ≠ .replacing)
    (hfits : s.startFits phase) (registry : Option ℕ) (sockets : List ℕ)
    (hregistry : registry = s.registry ∨ registry = none ∧ s.noneLive)
    (hsockets : ∀ other ∈ s.sockets, other ≠ id → other ∈ sockets) :
    Sound { s.setServer id { server with start := phase } with
      registry := registry, sockets := sockets } := by
  refine hs.setServer hserver ?_ ?_ registry s.tmp sockets hregistry hsockets hfits ?_ ?_
  · intro hlive
    exact absurd hlive (not_isLive_of_start hafter.1)
  · intro hserving
    exact absurd hserving hbefore
  · intro hbound
    simp [Server.isBound, hafter] at hbound
  · intro howns
    have hentry := (hs.servers id server hserver).owns howns
    cases hregistry with
    | inl hsame =>
      rw [hsame]
      exact hentry
    | inr hnone => exact Or.inl hnone.1

theorem mem_filter_ne {items : List ℕ} {id other : ℕ} (hmem : other ∈ items)
    (hne : other ≠ id) : other ∈ items.filter (· ≠ id) :=
  List.mem_filter.mpr ⟨hmem, decide_eq_true hne⟩

theorem Sound.closeMove {s : System} {id : ℕ} (hs : s.Sound)
    (hserver : s.servers[id]? = some server) (phase : ClosePhase)
    (listening : Bool) (hphase : phase ≠ .notCalled) (registry : Option ℕ)
    (sockets : List ℕ)
    (hregistry : registry = s.registry ∨ registry = none ∧ s.noneLive)
    (hsockets : ∀ other ∈ s.sockets, other ≠ id → other ∈ sockets)
    (howns : phase = .ownsMetadata → registry = none ∨ registry = some id) :
    Sound { s.setServer id { server with close := phase, listening := listening } with
      registry := registry, sockets := sockets } := by
  refine hs.setServer hserver ?_ ?_ registry s.tmp sockets hregistry hsockets ?_ ?_ ?_
  · intro hlive
    simp [Server.isLive, hphase] at hlive
  · intro hserving
    exact hserving
  · exact (hs.servers id server hserver).start
  · intro hbound
    simp [Server.isBound, hphase] at hbound
  · exact howns

theorem noneLive_of_registry_eq_none {s : System} (hs : s.Sound)
    (hnone : s.registry = none) : s.noneLive := by
  intro id hlive
  have hentry := hs.live id hlive
  rw [hnone] at hentry
  cases hentry

theorem noneLive_of_ownsMetadata {s : System} {id : ℕ} (hs : s.Sound)
    (hserver : s.servers[id]? = some server)
    (howns : server.close = .ownsMetadata) : s.noneLive := by
  intro other hlive
  have hentry := hs.live other hlive
  cases (hs.servers id server hserver).owns howns with
  | inl hnone =>
    rw [hnone] at hentry
    cases hentry
  | inr hsome =>
    rw [hsome, Option.some.injEq] at hentry
    rw [← hentry, isLive_of_getElem? hserver] at hlive
    simp [Server.isLive, howns] at hlive

theorem midway_of_hasTurn {s : System} {id other : ℕ}
    (hturn : s.hasTurn id = true) (hserver : s.servers[other]? = some server)
    (hne : other ≠ id) : server.start.isMidway = false := by
  simp only [hasTurn, Bool.and_eq_true, decide_eq_true_eq] at hturn
  have hmidway := hturn.1.1.2 other (List.getElem?_eq_some_iff.mp hserver).1 hne
  rw [hserver] at hmidway
  simpa using hmidway

theorem Sound.replace {s : System} {id : ℕ} (hs : s.Sound)
    (hserver : s.servers[id]? = some server)
    (hstart : server.start = .replacing) (hturn : s.hasTurn id = true) :
    Sound { s.setServer id { server with start := .serving } with
      registry := some id, tmp := none } := by
  have hnone : s.noneLive := by
    have hfits := (hs.servers id server hserver).start
    rw [hstart] at hfits
    exact hfits
  have hturn' := hturn
  simp only [hasTurn, Bool.and_eq_true, decide_eq_true_eq, List.all_eq_true] at hturn'
  obtain ⟨⟨_, hclosing⟩, hcompared⟩ := hturn'
  have hunpublished : ¬ s.isPublished id = true := by
    rw [isPublished_of_getElem? hserver, hstart]
    exact StartPhase.noConfusion
  have hlive (other : ℕ) (hother : other ≠ id) :
      ¬ (s.setServer id { server with start := .serving }).isLive other = true := by
    rw [isLive_setServer hserver, if_neg (Ne.symm hother)]
    exact hnone other
  have hpublished (other : ℕ) (hother : s.isPublished other = true) :
      (s.setServer id { server with start := .serving }).isPublished other = true := by
    rw [isPublished_setServer hserver]
    split
    · rfl
    · exact hother
  have hgone {entry : ℕ}
      (hentry : s.isPublished entry = true ∧ ¬ s.isLive entry = true) :
      (s.setServer id { server with start := .serving }).isPublished entry = true ∧
        ¬ (s.setServer id { server with start := .serving }).isLive entry = true := by
    refine ⟨hpublished entry hentry.1, hlive entry ?_⟩
    intro hsame
    rw [hsame] at hentry
    exact hunpublished hentry.1
  refine ⟨?_, ?_, ?_, ?_, ?_⟩
  · intro other hother
    by_cases hsame : other = id
    · rw [hsame]
    · exact absurd hother (hlive other hsame)
  · intro entry hentry
    rw [Option.some.injEq] at hentry
    rw [← hentry]
    exact (isPublished_setServer hserver id).mpr (by rw [if_pos rfl])
  · intro other next hnext
    dsimp only [System.setServer] at hnext
    rw [List.getElem?_set] at hnext
    by_cases hsame : id = other
    · have hlength : id < s.servers.length := (List.getElem?_eq_some_iff.mp hserver).1
      rw [if_pos hsame, if_pos hlength, Option.some.injEq] at hnext
      rw [← hnext, ← hsame]
      refine ⟨trivial, ?_, fun _ => Or.inr rfl⟩
      intro hbound
      apply (hs.servers id server hserver).bound
      simp only [Server.isBound, Bool.and_eq_true] at hbound ⊢
      rw [hstart]
      exact ⟨⟨⟨rfl, hbound.1.1.2⟩, hbound.1.2⟩, hbound.2⟩
    · rw [if_neg hsame] at hnext
      have hfits := hs.servers other next hnext
      have hmidway := midway_of_hasTurn hturn hnext (Ne.symm hsame)
      refine ⟨?_, hfits.bound, ?_⟩
      · cases hphase : next.start <;> rw [hphase] at hmidway <;> trivial
      · intro howns
        have hother := hclosing next (List.mem_of_getElem? hnext)
        simp [howns] at hother
  · intro entry hmem
    exact hpublished entry (hs.clients entry hmem)
  · intro actor hmem
    have hfits := hs.actors actor hmem
    cases actor with
    | constructStale entry | constructPing entry | cleanupPing entry =>
      exact hpublished entry hfits
    | stopping entry | discard entry | discardSocket entry => exact hgone hfits
    | discardMetadata entry => cases hcompared _ hmem
    | _ => trivial

theorem Sound.serverStep {s t : System} {id : ℕ} {move : ServerMove}
    (hs : s.Sound) (hserver : s.servers[id]? = some server)
    (hok : s.undisturbed (.server id move) = true)
    (htake : LocalRegistry.serverStep s id server move = some t) : t.Sound := by
  have hfits := hs.servers id server hserver
  have hkept : ∀ other ∈ s.sockets, other ≠ id → other ∈ s.sockets :=
    fun _ hmem _ => hmem
  have hremoved : ∀ other ∈ s.sockets, other ≠ id →
      other ∈ s.sockets.filter (· ≠ id) := fun _ => mem_filter_ne
  cases move with
  | read =>
    simp only [LocalRegistry.serverStep] at htake
    split at htake
    · next hstart =>
      have hbefore : server.start ≠ .serving := by
        rw [hstart]
        exact StartPhase.noConfusion
      split at htake
      · next hregistry =>
        cases htake
        exact hs.startMove hserver .removing hbefore (by simp)
          (noneLive_of_registry_eq_none hs hregistry) _ _ (Or.inl rfl) hkept
      · next entry hregistry =>
        cases htake
        refine hs.startMove hserver (.pinging entry) hbefore (by simp)
          ⟨hs.registry entry hregistry, ?_⟩ _ _ (Or.inl rfl) hkept
        intro other hlive
        have hentry := hs.live other hlive
        rw [hregistry, Option.some.injEq] at hentry
        exact hentry.symm
    · cases htake
  | ping answered =>
    simp only [LocalRegistry.serverStep] at htake
    split at htake
    · next entry hstart =>
      have hbefore : server.start ≠ .serving := by
        rw [hstart]
        exact StartPhase.noConfusion
      split at htake
      · split at htake
        · cases htake
          exact hs.startMove hserver .refused hbefore (by simp) trivial _ _
            (Or.inl rfl) hkept
        · cases htake
      · next hanswered =>
        cases htake
        have hdead : ¬ s.isLive entry = true := by
          rw [Bool.not_eq_true] at hanswered
          rw [hanswered] at hok
          simpa [undisturbed, hserver, hstart] using hok
        have hpinging := hfits.start
        rw [hstart] at hpinging
        refine hs.startMove hserver .removing hbefore (by simp) ?_ _ _ (Or.inl rfl) hkept
        intro other hlive
        rw [hpinging.2 other hlive] at hlive
        exact hdead hlive
    · cases htake
  | remove =>
    simp only [LocalRegistry.serverStep] at htake
    split at htake
    · next hstart =>
      cases htake
      have hnone : s.noneLive := by
        have hphase := hfits.start
        rw [hstart] at hphase
        exact hphase
      exact hs.startMove hserver .unlinking (by simp [hstart]) (by simp) hnone _ _
        (Or.inr ⟨rfl, hnone⟩) hkept
    · cases htake
  | unlink =>
    simp only [LocalRegistry.serverStep] at htake
    split at htake
    · next hstart =>
      cases htake
      have hphase := hfits.start
      rw [hstart] at hphase
      exact hs.startMove hserver .binding (by simp [hstart]) (by simp) hphase _ _
        (Or.inl rfl) hremoved
    · cases htake
  | bind =>
    simp only [LocalRegistry.serverStep] at htake
    split at htake
    · next hstart =>
      cases htake
      have hphase := hfits.start
      rw [hstart] at hphase
      refine hs.setServer hserver ?_ ?_ s.registry s.tmp (id :: s.sockets)
        (Or.inl rfl) (fun _ hmem _ => List.mem_cons_of_mem _ hmem) hphase
        (fun _ => ⟨rfl, List.mem_cons_self⟩) hfits.owns
      · intro hlive
        exact absurd hlive (not_isLive_of_start StartPhase.noConfusion)
      · intro hserving
        rw [hstart] at hserving
        cases hserving
    · cases htake
  | write =>
    simp only [LocalRegistry.serverStep] at htake
    split at htake
    · next hstart =>
      cases htake
      have hphase := hfits.start
      rw [hstart] at hphase
      refine hs.setServer hserver ?_ ?_ s.registry (some id) s.sockets
        (Or.inl rfl) hkept hphase ?_ hfits.owns
      · intro hlive
        exact absurd hlive (not_isLive_of_start StartPhase.noConfusion)
      · intro hserving
        rw [hstart] at hserving
        cases hserving
      · intro hbound
        apply hfits.bound
        simp only [Server.isBound, Bool.and_eq_true] at hbound ⊢
        rw [hstart]
        exact ⟨⟨⟨rfl, hbound.1.1.2⟩, hbound.1.2⟩, hbound.2⟩
    · cases htake
  | replace =>
    have hturn : s.hasTurn id = true := hok
    have htmp : s.tmp = some id := by
      simp only [hasTurn, Bool.and_eq_true, decide_eq_true_eq] at hturn
      exact hturn.1.1.1
    simp only [LocalRegistry.serverStep, htmp] at htake
    split at htake
    · next hstart =>
      cases htake
      exact hs.replace hserver hstart hturn
    · cases htake
  | closeListener =>
    simp only [LocalRegistry.serverStep] at htake
    split at htake
    · cases htake
      exact hs.closeMove hserver .listenerClosed false ClosePhase.noConfusion _ _ (Or.inl rfl)
        hremoved ClosePhase.noConfusion
    · cases htake
  | closeRead =>
    simp only [LocalRegistry.serverStep] at htake
    split at htake
    · split at htake
      · next hregistry =>
        cases htake
        exact hs.closeMove hserver .ownsMetadata server.listening ClosePhase.noConfusion _ _
          (Or.inl rfl) hkept (fun _ => Or.inr hregistry)
      · cases htake
        exact hs.closeMove hserver .closed server.listening ClosePhase.noConfusion _ _
          (Or.inl rfl) hkept ClosePhase.noConfusion
    · cases htake
  | closeRemove =>
    simp only [LocalRegistry.serverStep] at htake
    split at htake
    · next howns =>
      cases htake
      exact hs.closeMove hserver .metadataRemoved server.listening ClosePhase.noConfusion _ _
        (Or.inr ⟨rfl, noneLive_of_ownsMetadata hs hserver howns⟩) hkept
        ClosePhase.noConfusion
    · cases htake
  | closeUnlink =>
    simp only [LocalRegistry.serverStep] at htake
    split at htake
    · cases htake
      exact hs.closeMove hserver .closed server.listening ClosePhase.noConfusion _ _
        (Or.inl rfl) hremoved ClosePhase.noConfusion
    · cases htake
  | die =>
    simp only [LocalRegistry.serverStep] at htake
    cases htake
    refine hs.setServer_only hserver ?_ (fun hserving => hserving) hfits.start ?_
      hfits.owns
    · intro hlive
      simp [Server.isLive] at hlive
    · intro hbound
      simp [Server.isBound] at hbound

/-- A move of a thread.  It may take away the entry of the registry when no
server is live, and the socket of a server that is not bound. -/
theorem Sound.setActor {s : System} {id : ℕ} (actor : Actor) (hs : s.Sound)
    (hfits : s.actorFits actor) (registry : Option ℕ) (sockets clients : List ℕ)
    (hregistry : registry = s.registry ∨ registry = none ∧ s.noneLive)
    (hsockets : ∀ other server, s.servers[other]? = some server →
      server.isBound = true → other ∈ s.sockets → other ∈ sockets)
    (hclients : ∀ entry ∈ clients, entry ∈ s.clients ∨ s.isPublished entry = true) :
    Sound { s.setActor id actor with
      registry := registry, sockets := sockets, clients := clients } := by
  have hcalm : Calm s { s.setActor id actor with
      registry := registry, sockets := sockets, clients := clients } :=
    ⟨fun _ hlive => hlive, fun _ hpublished => hpublished,
      hregistry.imp_right And.left⟩
  refine hs.of_calm hcalm ?_ ?_ ?_ ?_
  · intro hnone
    cases hregistry with
    | inl hsame => exact Or.inl (hsame.symm.trans hnone)
    | inr hdead => exact Or.inr hdead.2
  · intro other server hserver
    have hother := hs.servers other server hserver
    refine ⟨startFits_of_calm hcalm hother.start, ?_, fun howns =>
      registry_of_calm hcalm (hother.owns howns)⟩
    intro hbound
    exact ⟨(hother.bound hbound).1,
      hsockets other server hserver hbound (hother.bound hbound).2⟩
  · intro entry hmem
    cases hclients entry hmem with
    | inl hold => exact hs.clients entry hold
    | inr hpublished => exact hpublished
  · intro other hmem
    cases List.mem_or_eq_of_mem_set hmem with
    | inl hold => exact actorFits_of_calm hcalm (hs.actors other hold)
    | inr hnew =>
      rw [hnew]
      exact actorFits_of_calm hcalm hfits

theorem Sound.setActor_only {s : System} {id : ℕ} {actor : Actor} (hs : s.Sound)
    (hfits : s.actorFits actor) : Sound (s.setActor id actor) :=
  hs.setActor actor hfits s.registry s.sockets s.clients (Or.inl rfl)
    (fun _ _ _ _ hmem => hmem) (fun _ hmem => Or.inl hmem)

theorem mem_sockets_of_isLive {s : System} (hs : s.Sound)
    (hlive : s.isLive entry = true) : entry ∈ s.sockets := by
  rw [isLive, Option.any_eq_true] at hlive
  obtain ⟨server, hserver, hlive⟩ := hlive
  exact ((hs.servers entry server hserver).bound (Server.isBound_of_isLive hlive)).2

theorem isAlive_of_isLive {s : System} (hlive : s.isLive entry = true) :
    s.isAlive entry = true := by
  rw [isLive, Option.any_eq_true] at hlive
  obtain ⟨server, hserver, hlive⟩ := hlive
  simp only [Server.isLive, Bool.and_eq_true] at hlive
  rw [isAlive, hserver]
  exact hlive.1.2

theorem isReachable_of_isLive {s : System} (hs : s.Sound)
    (hlive : s.isLive entry = true) : s.isReachable entry = true := by
  have hsocket := mem_sockets_of_isLive hs hlive
  have halive := isAlive_of_isLive hlive
  rw [isLive, Option.any_eq_true] at hlive
  obtain ⟨server, hserver, hlive⟩ := hlive
  rw [isAlive, hserver] at halive
  have hbound := (hs.servers entry server hserver).bound
    (Server.isBound_of_isLive hlive)
  simp only [isReachable, hsocket, hserver, decide_true, Bool.true_and,
    Option.any_some, Bool.and_eq_true]
  exact ⟨halive, hbound.1⟩

theorem requestStop_sound {s : System} (hs : s.Sound)
    (hentry : s.isPublished entry = true) :
    (s.requestStop entry).Sound ∧ (s.requestStop entry).isPublished entry = true ∧
      ¬ (s.requestStop entry).isLive entry = true := by
  have hpublished := hentry
  rw [isPublished, Option.any_eq_true] at hpublished
  obtain ⟨server, hserver, hstart⟩ := hpublished
  rw [decide_eq_true_eq] at hstart
  have hfits := hs.servers entry server hserver
  have hstopped : ¬ ({ server with stopRequested := true } : Server).isLive = true := by
    simp [Server.isLive]
  unfold requestStop
  rw [hserver]
  refine ⟨?_, ?_, ?_⟩
  · refine hs.setServer_only hserver ?_ (fun hserving => hserving) hfits.start ?_
      hfits.owns
    · intro hlive
      exact absurd hlive hstopped
    · intro hbound
      simp [Server.isBound] at hbound
  · apply (isPublished_setServer hserver entry).mpr
    rw [if_pos rfl]
    exact hstart
  · intro hlive
    have hlive := (isLive_setServer hserver entry).mp hlive
    rw [if_pos rfl] at hlive
    exact hstopped hlive

theorem mem_set_clients {s : System} (hs : s.Sound) {client : ℕ}
    (hregistry : s.registry = some entry) :
    ∀ other ∈ s.clients.set client entry,
      other ∈ s.clients ∨ s.isPublished other = true := by
  intro other hmem
  cases List.mem_or_eq_of_mem_set hmem with
  | inl hold => exact Or.inl hold
  | inr hnew =>
    rw [hnew]
    exact Or.inr (hs.registry entry hregistry)

theorem Sound.actorStep {s t : System} {id : ℕ} {actor : Actor} {move : ActorMove}
    (hs : s.Sound) (hactor : s.actors[id]? = some actor)
    (hok : s.undisturbed (.actor id move) = true)
    (htake : LocalRegistry.actorStep s id actor move = some t) : t.Sound := by
  have hfits := hs.actors actor (List.mem_of_getElem? hactor)
  have hintime : s.answersInTime actor move = true := by
    rw [undisturbed, hactor] at hok
    exact hok
  unfold LocalRegistry.actorStep at htake
  split at htake
  · -- a client reads the registry
    split at htake
    · cases htake
      exact hs
    · next entry hregistry =>
      cases htake
      exact hs.setActor_only (hs.registry entry hregistry)
  · next entry pidRunning =>
    split at htake
    · next hrunning =>
      split at htake
      · cases htake
        exact hs.setActor_only hfits
      · next hstale =>
        cases htake
        refine hs.setActor_only ⟨hfits, ?_⟩
        intro hlive
        have halive := isAlive_of_isLive hlive
        simp [hrunning halive, mem_sockets_of_isLive hs hlive] at hstale
    · cases htake
  · next entry answered =>
    split at htake
    · split at htake
      · cases htake
        refine hs.setActor .idle trivial s.registry s.sockets _ (Or.inl rfl)
          (fun _ _ _ _ hmem => hmem) ?_
        intro other hmem
        cases List.mem_append.mp hmem with
        | inl hold => exact Or.inl hold
        | inr hnew =>
          rw [List.mem_singleton.mp hnew]
          exact Or.inr hfits
      · cases htake
    · next hfailed =>
      cases htake
      rw [Bool.not_eq_true] at hfailed
      rw [hfailed] at hintime
      refine hs.setActor_only ⟨hfits, ?_⟩
      simpa [answersInTime] using hintime
  · -- a client calls
    split at htake
    · cases htake
      exact hs.setActor_only trivial
    · cases htake
  · split at htake
    all_goals
      cases htake
      exact hs.setActor_only trivial
  · next client expired =>
    split at htake
    · cases htake
    · next previous hclient hregistry =>
      cases htake
      refine hs.setActor_only ⟨hs.clients previous (List.mem_of_getElem? hclient), ?_⟩
      exact noneLive_of_registry_eq_none hs hregistry previous
    · next previous entry hclient hregistry =>
      cases htake
      refine hs.setActor _ ?_ s.registry s.sockets _ (Or.inl rfl)
        (fun _ _ _ _ hmem => hmem) (mem_set_clients hs hregistry)
      cases expired with
      | false => trivial
      | true =>
        refine ⟨hs.registry entry hregistry, ?_⟩
        simpa [answersInTime, hregistry] using hintime
  · -- a client reads a stream
    split at htake
    · cases htake
      exact hs.setActor_only trivial
    · cases htake
  · split at htake
    all_goals
      cases htake
      exact hs.setActor_only trivial
  · next client =>
    split at htake
    · cases htake
    · next previous hclient hregistry =>
      cases htake
      refine hs.setActor_only ⟨hs.clients previous (List.mem_of_getElem? hclient), ?_⟩
      exact noneLive_of_registry_eq_none hs hregistry previous
    · next previous entry hclient hregistry =>
      cases htake
      refine hs.setActor _ ?_ s.registry s.sockets _ (Or.inl rfl)
        (fun _ _ _ _ hmem => hmem) (mem_set_clients hs hregistry)
      split
      · next hsame =>
        refine ⟨hs.registry entry hregistry, ?_⟩
        rw [← hsame] at hclient
        simpa [answersInTime, hregistry, hclient] using hintime
      · trivial
  · next client completed =>
    split at htake
    · cases htake
      exact hs.setActor_only trivial
    · next hfailed =>
      split at htake
      · cases htake
      · next entry hclient =>
        cases htake
        rw [Bool.not_eq_true] at hfailed
        rw [hfailed] at hintime
        refine hs.setActor_only ⟨hs.clients entry (List.mem_of_getElem? hclient), ?_⟩
        simpa [answersInTime, hclient] using hintime
  · -- the clean-up of stale entries
    split at htake
    · cases htake
      exact hs
    · next entry hregistry =>
      cases htake
      exact hs.setActor_only (hs.registry entry hregistry)
  · next entry pidRunning answered =>
    split at htake
    · next hfound =>
      split at htake
      · cases htake
        exact hs.setActor_only trivial
      · next hstale =>
        cases htake
        refine hs.setActor_only ⟨hfits, ?_⟩
        cases answered with
        | false => simpa [answersInTime] using hintime
        | true =>
          intro hlive
          simp [hfound.1 (isAlive_of_isLive hlive)] at hstale
    · cases htake
  · -- a stop
    split at htake
    · cases htake
      exact hs
    · next entry hregistry =>
      cases htake
      have hstop := requestStop_sound hs (hs.registry entry hregistry)
      exact hstop.1.setActor_only hstop.2
  · next entry cleanup =>
    cases htake
    cases cleanup with
    | false => exact hs.setActor_only trivial
    | true => exact hs.setActor_only hfits
  · -- a discard
    next entry =>
    split at htake
    · next hregistry =>
      cases htake
      exact hs.setActor_only ⟨hfits, Or.inr hregistry⟩
    · cases htake
      exact hs.setActor_only trivial
  · next entry =>
    cases htake
    refine hs.setActor (.discardSocket entry) hfits.1 none s.sockets s.clients
      (Or.inr ⟨rfl, ?_⟩) (fun _ _ _ _ hmem => hmem) (fun _ hmem => Or.inl hmem)
    intro other hlive
    cases hfits.2 with
    | inl hnone => exact noneLive_of_registry_eq_none hs hnone other hlive
    | inr hentry =>
      have hother := hs.live other hlive
      rw [hentry, Option.some.injEq] at hother
      rw [← hother] at hlive
      exact hfits.1.2 hlive
  · next entry =>
    cases htake
    refine hs.setActor .idle trivial s.registry _ s.clients (Or.inl rfl) ?_
      (fun _ hmem => Or.inl hmem)
    intro other server hserver hbound hmem
    apply mem_filter_ne hmem
    intro hsame
    rw [hsame] at hserver
    have hstart := (isPublished_of_getElem? hserver).mp hfits.1
    have hlive := Server.isLive_of_isBound hbound hstart
    rw [← isLive_of_getElem? hserver] at hlive
    exact hfits.2 hlive
  · cases htake

theorem Sound.step {s t : System} {label : Label} (hs : s.Sound)
    (hok : s.undisturbed label = true) (htake : LocalRegistry.step s label = some t) :
    t.Sound := by
  cases label with
  | server id move =>
    simp only [LocalRegistry.step] at htake
    split at htake
    · cases htake
    · next server hserver =>
      split at htake
      · exact hs.serverStep hserver hok htake
      · cases htake
  | actor id move =>
    simp only [LocalRegistry.step] at htake
    split at htake
    · cases htake
    · next actor hactor => exact hs.actorStep hactor hok htake

theorem initial_sound (servers actors : ℕ) : (initial servers actors).Sound := by
  have hcreated {id : ℕ} {server : Server}
      (hserver : (initial servers actors).servers[id]? = some server) :
      server = Server.created :=
    List.eq_of_mem_replicate (List.mem_of_getElem? hserver)
  refine ⟨?_, ?_, ?_, ?_, ?_⟩
  · intro id hlive
    rw [isLive, Option.any_eq_true] at hlive
    obtain ⟨server, hserver, hlive⟩ := hlive
    rw [hcreated hserver] at hlive
    cases hlive
  · intro entry hentry
    cases hentry
  · intro id server hserver
    rw [hcreated hserver]
    refine ⟨trivial, ?_, ?_⟩
    · intro hbound
      cases hbound
    · intro howns
      cases howns
  · intro entry hmem
    cases hmem
  · intro actor hmem
    rw [List.eq_of_mem_replicate hmem]
    trivial

theorem runLabels_connects {s : System} (hs : s.Sound) {id actor : ℕ}
    (hlive : s.isLive id = true) (hactor : s.actors[actor]? = some .idle) :
    ∃ t, runLabels LocalRegistry.step s [.actor actor .constructRead,
      .actor actor (.constructStale true), .actor actor (.constructPing true)] = some t ∧
      t.clients = s.clients ++ [id] := by
  have hregistry := hs.live id hlive
  have hsocket := mem_sockets_of_isLive hs hlive
  have hreachable := isReachable_of_isLive hs hlive
  have hlength : actor < s.actors.length := (List.getElem?_eq_some_iff.mp hactor).1
  have hread : LocalRegistry.step s (.actor actor .constructRead) =
      some (s.setActor actor (.constructStale id)) := by
    simp [LocalRegistry.step, hactor, LocalRegistry.actorStep, hregistry]
  have hstale : LocalRegistry.step (s.setActor actor (.constructStale id))
      (.actor actor (.constructStale true)) =
      some ((s.setActor actor (.constructStale id)).setActor actor
        (.constructPing id)) := by
    simp [LocalRegistry.step, System.setActor, hlength, LocalRegistry.actorStep, hsocket]
  have hping (next : System) (hnext : actor < next.actors.length)
      (hreach : next.isReachable id = true) :
      LocalRegistry.step (next.setActor actor (.constructPing id))
        (.actor actor (.constructPing true)) =
      some { (next.setActor actor (.constructPing id)).setActor actor .idle with
        clients := next.clients ++ [id] } := by
    have hactor' : (next.setActor actor (.constructPing id)).actors[actor]? =
        some (.constructPing id) := by
      simp [System.setActor, hnext]
    have hreach' : (next.setActor actor (.constructPing id)).isReachable id = true :=
      hreach
    simp only [LocalRegistry.step, hactor', LocalRegistry.actorStep, if_true, hreach']
    rfl
  have hlast := hping (s.setActor actor (.constructStale id))
    (by simpa [System.setActor] using hlength) hreachable
  simp only [runLabels, hread, hstale, hlast]
  exact ⟨_, rfl, rfl⟩

/-- While the pings of live servers are answered in time, no call to them is given
up and a start replaces the entry in its turn, the registry stays truthful. -/
theorem registry_truthful {servers actors : ℕ} {s : System}
    (hrun : GuardedRun LocalRegistry.step
      (fun system label => system.undisturbed label = true) (initial servers actors) s) :
    s.Truthful := by
  have hsound : s.Sound := hrun.invariant Sound (initial_sound servers actors)
    (fun _ _ _ hs hok htake => hs.step hok htake)
  refine ⟨?_, ?_, ?_⟩
  · intro id other hlive hother
    have hentry := hsound.live id hlive
    rw [hsound.live other hother, Option.some.injEq] at hentry
    exact hentry.symm
  · intro id hlive
    exact ⟨hsound.live id hlive, mem_sockets_of_isLive hsound hlive⟩
  · intro id actor hlive hactor
    exact runLabels_connects hsound hlive hactor

def startMoves (id : ℕ) : List Label :=
  [.server id .read, .server id .remove, .server id .unlink, .server id .bind,
    .server id .write, .server id .replace]

/-- Two servers after one another, a client of the first, a call that is tried
again and a clean-up: in the end there is one live server and a second client has
connected to it. -/
theorem sample_registry_truthful : ∃ s : System,
    s.isLive 1 = true ∧ s.clients = [0, 1] ∧ s.Truthful := by
  have hrun : (checkedRun LocalRegistry.step
      (fun system label => system.undisturbed label = true) (initial 2 2)
      (startMoves 0 ++ [.actor 0 .constructRead, .actor 0 (.constructStale true),
        .actor 0 (.constructPing true), .actor 0 (.call 0),
        .actor 0 (.request false), .actor 0 (.refresh false),
        .actor 0 (.request true), .server 0 .closeListener, .server 0 .closeRead,
        .server 1 .read, .server 1 (.ping false), .actor 1 .cleanupRead,
        .actor 1 (.cleanupPing true false), .actor 1 .readToken,
        .actor 1 .removeMetadata, .actor 1 .unlinkSocket, .server 0 .closeRemove,
        .server 0 .closeUnlink] ++ (startMoves 1).tail ++
        [.actor 1 .constructRead, .actor 1 (.constructStale true),
          .actor 1 (.constructPing true)])).any (fun s =>
        s.isLive 1 = true ∧ s.clients = [0, 1]) = true := by
    decide +kernel
  rw [Option.any_eq_true] at hrun
  obtain ⟨s, hsystem, hfacts⟩ := hrun
  obtain ⟨hlive, hclients⟩ := of_decide_eq_true hfacts
  exact ⟨s, hlive, hclients, registry_truthful (guardedRun_of_checkedRun _ hsystem)⟩

/-- One call that outlasts its client's timeout takes a live server out of the
registry and its socket away. -/
theorem live_server_discarded : ∃ s : System,
    Reachable LocalRegistry.step (initial 1 1) s ∧ s.isLive 0 = true ∧
    s.registry = none ∧ s.sockets = [] ∧ ¬ s.Truthful := by
  have hrun : (runLabels LocalRegistry.step (initial 1 1)
      (startMoves 0 ++ [.actor 0 .constructRead, .actor 0 (.constructStale true),
        .actor 0 (.constructPing true), .actor 0 (.call 0),
        .actor 0 (.request false), .actor 0 (.refresh true), .actor 0 .readToken,
        .actor 0 .removeMetadata, .actor 0 .unlinkSocket])).any (fun s =>
        s.isLive 0 = true ∧ s.registry = none ∧ s.sockets = []) = true := by
    decide +kernel
  rw [Option.any_eq_true] at hrun
  obtain ⟨s, hsystem, hfacts⟩ := hrun
  obtain ⟨hlive, hregistry, hsockets⟩ := of_decide_eq_true hfacts
  refine ⟨s, reachable_of_runLabels _ hsystem, hlive, hregistry, hsockets, ?_⟩
  intro htruthful
  have hentry := (htruthful.kept 0 hlive).1
  rw [hregistry] at hentry
  cases hentry

end System

end PycloudParallel.LocalRegistry
