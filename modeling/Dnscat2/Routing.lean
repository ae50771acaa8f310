import Dnscat2.Controller

/-!
The controller's calls (`pkg/controller`) over the sessions it holds. `DataIncoming` reads
the session id of a frame with `PeekSessionID` and hands the frame to the first session,
shut down or not, that has this id (`getByID`); `GetOutgoing` asks the session that
`getNextActive` picks for its next frame; `Heartbeat` kills every live session that has gone
more than `MaxRetransmits` transmissions without an answer, and `KillAllSessions` every live
session. The controller holds its sessions by pointer, so a call on a session updates it in
place: here, the session at its place in the list.

A run of the controller is a sequence of these calls, of registrations and `Destroy`, and of
steps of the sessions' driver goroutines. The command driver's `CreateSession` callback
registers a session in the middle of the command session's `DataIncoming`; a registration
only appends, so it commutes with the update of the calling session, and a run has it as an
`addSession` right after the call. Over every run, each session is the one registered at its
place, moved on by steps of its own and by kills: the controller refines its sessions run
side by side, and hands a session only the frames whose id `getByID` finds first at its place.
-/

namespace Dnscat2

variable {D E : Type} (ops : Driver D) (C : Crypto) (cfg : Config) (feed : D → E → D)

namespace Controller

/-- `getByID`: the first of the sessions, shut down or not, whose id is `sessionID`, with its
place. -/
def getByID (sessionID : UInt16) : List (Session D) → Option (Nat × Session D)
  | [] => none
  | s :: sessions =>
    if s.id = sessionID then some (0, s)
    else (getByID sessionID sessions).map fun r => (r.1 + 1, r.2)

/-- `DataIncoming`: a frame too short for a session id, or whose id no session has, is
dropped with `false`; otherwise the session `getByID` finds takes it, and its answer comes
back. -/
def dataIncoming (c : Controller D) (data : Bytes) : Except Halt (Controller D × Bool) :=
  match peekSessionID data with
  | .error _ => .ok (c, false)
  | .ok sessionID =>
    match getByID sessionID c.sessions with
    | none => .ok (c, false)
    | some (i, s) =>
      (fun r => ({ c with sessions := c.sessions.set i r.1 }, r.2)) <$>
        s.dataIncoming ops C cfg data

/-- `GetOutgoing`: the frame of the session `getNextActive` picks and `true`, or `nil` and
`false` when it picks none; `none` when `getNextActive` does not return. -/
def getOutgoing (c : Controller D) (fuel now : Nat) (maxLength : Int) (packetID : UInt16)
    (privateKey : Option Bytes) : Option (Except Halt ((Option Bytes × Bool) × Controller D)) :=
  (c.getNextActive fuel).map fun
    | (none, c) => .ok ((none, false), c)
    | (some s, c) =>
      (fun r => ((r.1, true), { c with sessions := c.sessions.set c.currentIndex r.2 })) <$>
        s.getOutgoing ops C cfg now maxLength packetID privateKey

/-- `killIgnoredSessions` under the package's `MaxRetransmits`: nothing when it is negative,
otherwise every live session with more missed transmissions than that is killed. -/
def killIgnoredSessions (maxRetransmits : Int) (c : Controller D) : Controller D :=
  if maxRetransmits < 0 then c
  else { c with sessions := c.sessions.map fun s =>
    if !s.isShutdown && maxRetransmits < s.missedTransmissions then s.kill ops else s }

def heartbeat (maxRetransmits : Int) (c : Controller D) : Controller D :=
  c.killIgnoredSessions ops maxRetransmits

def killAllSessions (c : Controller D) : Controller D :=
  { c with sessions := c.sessions.map fun s => if !s.isShutdown then s.kill ops else s }

def openSessionCount (c : Controller D) : Nat := c.sessions.countP fun s => !s.isShutdown

/-- What moves the controller on: a call of the transport (`DataIncoming`, `GetOutgoing`,
`Heartbeat`), a registration or `KillAllSessions` from the service, `Destroy`, or a step of
the goroutines of the `i`-th session's driver. -/
inductive Action (D E : Type)
  | addSession (s : Session D)
  | dataIncoming (data : Bytes)
  | getOutgoing (now : Nat) (maxLength : Int) (packetID : UInt16) (privateKey : Option Bytes)
  | heartbeat
  | killAllSessions
  | destroy
  | driver (i : Nat) (e : E)

/-- One action under `MaxRetransmits`, with `fuel` for `getNextActive`: the controller after
it, or how the call stopped for good; `none` when it does not return. -/
def step (maxRetransmits : Int) (fuel : Nat) (c : Controller D) :
    Action D E → Option (Except Halt (Controller D))
  | .addSession s => some (.ok (c.addSession s))
  | .dataIncoming data => some (Prod.fst <$> c.dataIncoming ops C cfg data)
  | .getOutgoing now maxLength packetID privateKey =>
    (c.getOutgoing ops C cfg fuel now maxLength packetID privateKey).map (Prod.snd <$> ·)
  | .heartbeat => some (.ok (c.heartbeat ops maxRetransmits))
  | .killAllSessions => some (.ok (c.killAllSessions ops))
  | .destroy => some (.ok c.destroy)
  | .driver i e =>
    some (.ok { c with sessions := c.sessions.modify (fun s => { s with driver := feed s.driver e }) i })

def steps (maxRetransmits : Int) (fuel : Nat) (c : Controller D) :
    List (Action D E) → Option (Except Halt (Controller D))
  | [] => some (.ok c)
  | a :: as => (c.step ops C cfg feed maxRetransmits fuel a).bind fun
    | .ok c => c.steps maxRetransmits fuel as
    | .error e => some (.error e)

/-- The sessions registered since the last `Destroy` of a sequence of actions, after those the
controller holds at its start: whom each place of the list belongs to. -/
def registered (sessions : List (Session D)) : List (Action D E) → List (Session D)
  | [] => sessions
  | .addSession s :: as => registered (sessions ++ [s]) as
  | .destroy :: as => registered [] as
  | _ :: as => registered sessions as

/-- The frames the controller may hand the `i`-th of the registered sessions: those that
carry its id, when no session registered before it has that id. -/
def Routed (registered : List (Session D)) (i : Nat) (data : Bytes) : Prop :=
  ∃ s, registered[i]? = some s ∧ peekSessionID data = .ok s.id ∧
    ∀ t ∈ registered.take i, t.id ≠ s.id

end Controller

namespace Session

/-- What the controller can do to one of its sessions: the session's own steps, a
`DataIncoming` only with a frame `accepts` lets through, and `Kill`. -/
inductive Evolves (accepts : Bytes → Prop) : Session D → Session D → Prop
  | refl (s : Session D) : Evolves accepts s s
  | step {s s' s'' : Session D} {e : Event E} : Evolves accepts s s' →
      (∀ data, e = .call (.dataIncoming data) → accepts data) →
      s'.step ops C cfg feed e = .ok s'' → Evolves accepts s s''
  | kill {s s' : Session D} : Evolves accepts s s' → Evolves accepts s (s'.kill ops)

variable {ops C cfg feed}

theorem kill_id (s : Session D) : (s.kill ops).id = s.id := by
  rw [kill_eq]

theorem Evolves.id {accepts : Bytes → Prop} {s₀ s : Session D}
    (h : Evolves ops C cfg feed accepts s₀ s) : s.id = s₀.id := by
  induction h with
  | refl => rfl
  | step _ _ hs ih => exact (step_ident hs).1.trans ih
  | kill _ ih => rw [kill_id]; exact ih

theorem Evolves.mono {accepts accepts' : Bytes → Prop} (ha : ∀ data, accepts data → accepts' data)
    {s₀ s : Session D} (h : Evolves ops C cfg feed accepts s₀ s) :
    Evolves ops C cfg feed accepts' s₀ s := by
  induction h with
  | refl => exact .refl _
  | step _ he hs ih => exact .step ih (fun data h => ha _ (he data h)) hs
  | kill _ ih => exact .kill ih

section Observed

variable {ops : Driver D} {feed : D → E → D}

/-- A step other than `DataIncoming` leaves the handshake state and both sequence numbers as
they were, and hands the driver nothing. -/
theorem step_quiet {s s' : Session (D × Traffic)} {e : Event E}
    (he : ∀ data, e ≠ .call (.dataIncoming data))
    (h : s.step ops.observed C cfg (Driver.observedFeed feed) e = .ok s') :
    s'.state = s.state ∧ s'.theirSeq = s.theirSeq ∧ s'.mySeq = s.mySeq ∧
      s'.driver.2.received = s.driver.2.received := by
  rcases e with (⟨now, m, pid, k⟩ | data) | e
  · obtain ⟨⟨r, s₂⟩, hg, rfl⟩ := map_eq_ok.mp h
    obtain ⟨s₁, hp, ht⟩ := getOutgoing_ok hg
    have hr := pollDriverForData_received hp
    rw [transmit_frame ht, (pollDriverForData_frame hp).1] at *
    exact ⟨rfl, rfl, rfl, hr⟩
  · exact absurd rfl (he data)
  · cases h
    exact ⟨rfl, rfl, rfl, rfl⟩

theorem kill_quiet (s : Session (D × Traffic)) :
    (s.kill ops.observed).state = s.state ∧ (s.kill ops.observed).theirSeq = s.theirSeq ∧
      (s.kill ops.observed).mySeq = s.mySeq ∧
        (s.kill ops.observed).driver.2.received = s.driver.2.received := by
  rw [kill_eq]
  split <;> exact ⟨rfl, rfl, rfl, rfl⟩

/-- A session the controller hands no frame keeps its state and sequence numbers, and its
driver receives nothing. -/
theorem Evolves.quiet {accepts : Bytes → Prop} (hna : ∀ data, ¬accepts data)
    {s₀ s : Session (D × Traffic)}
    (h : Evolves ops.observed C cfg (Driver.observedFeed feed) accepts s₀ s) :
    s.state = s₀.state ∧ s.theirSeq = s₀.theirSeq ∧ s.mySeq = s₀.mySeq ∧
      s.driver.2.received = s₀.driver.2.received := by
  induction h with
  | refl => exact ⟨rfl, rfl, rfl, rfl⟩
  | step _ he hs ih =>
    obtain ⟨h₁, h₂, h₃, h₄⟩ := step_quiet (fun data hd => hna data (he data hd)) hs
    exact ⟨h₁.trans ih.1, h₂.trans ih.2.1, h₃.trans ih.2.2.1, h₄.trans ih.2.2.2⟩
  | kill _ ih =>
    obtain ⟨h₁, h₂, h₃, h₄⟩ := @kill_quiet _ ops _
    exact ⟨h₁.trans ih.1, h₂.trans ih.2.1, h₃.trans ih.2.2.1, h₄.trans ih.2.2.2⟩

end Observed

end Session

namespace Controller

/-- Each place of the list holds the session registered there, moved on by steps of its own
that take only the frames routed to it, and by kills. -/
def Refines (registered sessions : List (Session D)) : Prop :=
  registered.length = sessions.length ∧
    ∀ i s₀ s, registered[i]? = some s₀ → sessions[i]? = some s →
      Session.Evolves ops C cfg feed (Routed registered i) s₀ s

variable {ops C cfg feed}

/-! ### One call -/

theorem getByID_eq_some {sessionID : UInt16} :
    ∀ {S : List (Session D)} {i : Nat} {s : Session D}, getByID sessionID S = some (i, s) ↔
      S[i]? = some s ∧ s.id = sessionID ∧ ∀ t ∈ S.take i, t.id ≠ sessionID
  | [], i, s => by simp [getByID]
  | t :: S, 0, s => by
    by_cases ht : t.id = sessionID
    · simp only [getByID, ht, if_true, Option.some.injEq, Prod.mk.injEq, true_and,
        List.getElem?_cons_zero, List.take_zero, List.not_mem_nil, false_implies, implies_true,
        and_true]
      exact ⟨fun h => ⟨h, h ▸ ht⟩, And.left⟩
    · simp [getByID, ht]
      rintro rfl
      exact ht
  | t :: S, i + 1, s => by
    by_cases ht : t.id = sessionID
    · simp [getByID, ht]
    · simp [getByID, ht, getByID_eq_some]

theorem getByID_eq_none {sessionID : UInt16} {S : List (Session D)} :
    getByID sessionID S = none ↔ ∀ t ∈ S, t.id ≠ sessionID := by
  induction S with
  | nil => simp [getByID]
  | cons t S ih => by_cases ht : t.id = sessionID <;> simp [getByID, ht, ih]

/-- The loop of `getNextActive` stops only at a live session, at the place it returns. -/
theorem loop_some {S : List (Session D)} {x : Nat} :
    ∀ {fuel i j : Nat} {s : Session D}, loop S x fuel i = some (some s, j) →
      S[j]? = some s ∧ s.isShutdown = false
  | 0, _, _, _, h => by simp [loop] at h
  | fuel + 1, i, j, s, h => by
    simp only [loop] at h
    split at h
    · simp at h
    · split_ifs at h
      · simp_all
      · simp at h
      · exact loop_some h

theorem getNextActive_sessions {c c' : Controller D} {fuel : Nat} {r : Option (Session D)}
    (h : c.getNextActive fuel = some (r, c')) : c'.sessions = c.sessions := by
  unfold getNextActive at h
  split_ifs at h
  · cases h; rfl
  · obtain ⟨_, -, h⟩ := Option.map_eq_some'.mp h
    cases h; rfl

theorem getNextActive_some {c c' : Controller D} {fuel : Nat} {s : Session D}
    (h : c.getNextActive fuel = some (some s, c')) :
    c.sessions[c'.currentIndex]? = some s ∧ s.isShutdown = false := by
  unfold getNextActive at h
  split_ifs at h
  · simp at h
  · obtain ⟨⟨r, j⟩, hl, h⟩ := Option.map_eq_some'.mp h
    cases h
    exact loop_some hl

/-- With every session shut down and fuel for a circle, `getNextActive` returns `nil`. -/
theorem getNextActive_all_shutdown {c : Controller D} {fuel : Nat} (hx : c.Inv)
    (hf : c.sessions.length ≤ fuel) (hall : ∀ s ∈ c.sessions, s.isShutdown = true) :
    ∃ c', c.getNextActive fuel = some (none, c') := by
  rcases Nat.eq_zero_or_pos c.sessions.length with h0 | hpos
  · exact ⟨c, by simp [getNextActive, h0]⟩
  · rw [getNextActive_eq (hx.lt hpos) hf, (outcome_firstLive (hx.lt hpos)).1.mpr hall]
    exact ⟨_, rfl⟩

/-- A heartbeat kills only live sessions, so it leaves sessions that are all shut down as
they are. -/
theorem heartbeat_of_all_shutdown {c : Controller D} (maxRetransmits : Int)
    (hall : ∀ s ∈ c.sessions, s.isShutdown = true) : c.heartbeat ops maxRetransmits = c := by
  unfold heartbeat killIgnoredSessions
  split_ifs
  · rfl
  · have hmap : c.sessions.map (fun s =>
        if !s.isShutdown && maxRetransmits < s.missedTransmissions then s.kill ops else s) =
        c.sessions.map id := List.map_congr_left fun s hs => by simp [hall s hs]
    rw [hmap, List.map_id]

/-- Under a ceiling of zero or more, a session a heartbeat leaves live was live before, within
the ceiling, and is unchanged. -/
theorem heartbeat_live {c : Controller D} {maxRetransmits : Int} (hM : 0 ≤ maxRetransmits)
    {i : Nat} {s : Session D} (h : (c.heartbeat ops maxRetransmits).sessions[i]? = some s)
    (hs : s.isShutdown = false) :
    c.sessions[i]? = some s ∧ (s.missedTransmissions : Int) ≤ maxRetransmits := by
  have hM' : ¬maxRetransmits < 0 := by omega
  simp only [heartbeat, killIgnoredSessions, hM', if_false, List.getElem?_map] at h
  obtain ⟨s₀, h₀, hs₀⟩ := Option.map_eq_some'.mp h
  split_ifs at hs₀ with hk
  · subst hs₀
    rw [Session.kill_eq] at hs
    cases hs
  · subst hs₀
    simp only [hs, Bool.not_false, Bool.true_and, decide_eq_true_eq] at hk
    exact ⟨h₀, by omega⟩

/-! ### What each action does to the sessions -/

section Refines

variable {R S : List (Session D)}

theorem refines_refl (S : List (Session D)) : Refines ops C cfg feed S S :=
  ⟨rfl, fun _ _ _ h₀ h => by rw [h₀] at h; cases h; exact .refl _⟩

private theorem exists_mem_take_of_map_eq {f : Session D → UInt16} {R S : List (Session D)}
    (hmap : R.map f = S.map f) {i : Nat} {t : Session D} (ht : t ∈ R.take i) :
    ∃ t' ∈ S.take i, f t' = f t := by
  have hmem : f t ∈ (S.take i).map f := by
    rw [List.map_take, ← hmap, ← List.map_take]
    exact List.mem_map_of_mem _ ht
  exact List.mem_map.mp hmem

/-- The sessions keep the ids of the ones registered at their places. -/
theorem Refines.ids (h : Refines ops C cfg feed R S) : R.map Session.id = S.map Session.id :=
  List.ext_getElem (by simp [h.1]) fun i h₁ h₂ => by
    have hR : i < R.length := by simpa using h₁
    have hS : i < S.length := by simpa using h₂
    simp only [List.getElem_map]
    exact (h.2 i _ _ (List.getElem?_eq_getElem hR) (List.getElem?_eq_getElem hS)).id.symm

/-- The session `getByID` finds for the id of a frame is the first registered with that id:
the frame is routed to its place. -/
theorem Refines.routed (h : Refines ops C cfg feed R S) {data : Bytes} {sessionID : UInt16}
    {i : Nat} {s : Session D} (hp : peekSessionID data = .ok sessionID)
    (hg : getByID sessionID S = some (i, s)) : Routed R i data := by
  obtain ⟨hs, hid, hfirst⟩ := getByID_eq_some.mp hg
  have hmap := h.ids
  obtain ⟨s₀, h₀, hid₀⟩ : ∃ s₀, R[i]? = some s₀ ∧ s₀.id = s.id := by
    have := congrArg (·[i]?) hmap
    simp only [List.getElem?_map, hs, Option.map_some'] at this
    exact Option.map_eq_some'.mp this
  refine ⟨s₀, h₀, by rw [hp, hid₀, hid], fun t ht => ?_⟩
  obtain ⟨t', ht', hidt⟩ := exists_mem_take_of_map_eq hmap ht
  rw [← hidt, hid₀, hid]
  exact hfirst t' ht'

theorem Refines.set (h : Refines ops C cfg feed R S) {i : Nat} {s s' : Session D}
    (hs : S[i]? = some s)
    (hstep : ∀ s₀, Session.Evolves ops C cfg feed (Routed R i) s₀ s →
      Session.Evolves ops C cfg feed (Routed R i) s₀ s') :
    Refines ops C cfg feed R (S.set i s') := by
  refine ⟨by rw [List.length_set, h.1], fun j s₀ t h₀ ht => ?_⟩
  by_cases hij : i = j
  · subst hij
    rw [List.getElem?_set_self (List.getElem?_eq_some_iff.mp hs).1] at ht
    cases ht
    exact hstep s₀ (h.2 i s₀ s h₀ hs)
  · rw [List.getElem?_set_ne hij] at ht
    exact h.2 j s₀ t h₀ ht

theorem Refines.modify (h : Refines ops C cfg feed R S) {i : Nat} {f : Session D → Session D}
    (hf : ∀ s₀ s, Session.Evolves ops C cfg feed (Routed R i) s₀ s →
      Session.Evolves ops C cfg feed (Routed R i) s₀ (f s)) :
    Refines ops C cfg feed R (S.modify f i) := by
  refine ⟨by rw [List.length_modify, h.1], fun j s₀ t h₀ ht => ?_⟩
  rw [List.getElem?_modify] at ht
  obtain ⟨s, hs, rfl⟩ := Option.map_eq_some'.mp ht
  split_ifs with hij
  · subst hij
    exact hf _ _ (h.2 _ _ _ h₀ hs)
  · exact h.2 _ _ _ h₀ hs

/-- Killing some of the sessions. -/
theorem Refines.map (h : Refines ops C cfg feed R S) {f : Session D → Session D}
    (hf : ∀ s, f s = s ∨ f s = s.kill ops) : Refines ops C cfg feed R (S.map f) := by
  refine ⟨by rw [List.length_map, h.1], fun i s₀ t h₀ ht => ?_⟩
  rw [List.getElem?_map] at ht
  obtain ⟨s, hs, rfl⟩ := Option.map_eq_some'.mp ht
  rcases hf s with e | e <;> rw [e]
  · exact h.2 i s₀ s h₀ hs
  · exact .kill (h.2 i s₀ s h₀ hs)

theorem Refines.append (h : Refines ops C cfg feed R S) (s : Session D) :
    Refines ops C cfg feed (R ++ [s]) (S ++ [s]) := by
  refine ⟨by simp [h.1], fun i s₀ t h₀ ht => ?_⟩
  rcases Nat.lt_or_ge i R.length with hi | hi
  · rw [List.getElem?_append_left hi] at h₀
    rw [List.getElem?_append_left (h.1 ▸ hi)] at ht
    refine (h.2 i s₀ t h₀ ht).mono fun data ⟨u, hu, hp, hn⟩ => ⟨u, ?_, hp, ?_⟩
    · rwa [List.getElem?_append_left hi]
    · rwa [List.take_append_of_le_length (Nat.le_of_lt hi)]
  · obtain rfl : i = R.length := by
      have := (List.getElem?_eq_some_iff.mp h₀).1
      simp only [List.length_append, List.length_singleton] at this
      omega
    rw [List.getElem?_concat_length] at h₀
    rw [h.1, List.getElem?_concat_length] at ht
    cases h₀; cases ht
    exact .refl _

theorem dataIncoming_refines {c c' : Controller D} {data : Bytes} {b : Bool}
    (h : Refines ops C cfg feed R c.sessions) (hd : c.dataIncoming ops C cfg data = .ok (c', b)) :
    Refines ops C cfg feed R c'.sessions := by
  unfold dataIncoming at hd
  split at hd
  · cases hd; exact h
  · rename_i sessionID hp
    split at hd
    · cases hd; exact h
    · rename_i i s hg
      obtain ⟨⟨s', b'⟩, hs, hc⟩ := map_eq_ok.mp hd
      cases hc
      exact h.set (getByID_eq_some.mp hg).1 fun s₀ he =>
        .step he (fun d hd' => by cases hd'; exact h.routed hp hg) (Session.step_dataIncoming hs)

theorem getOutgoing_refines {c c' : Controller D} {fuel now : Nat} {m : Int} {pid : UInt16}
    {k : Option Bytes} {r : Option Bytes × Bool} (h : Refines ops C cfg feed R c.sessions)
    (hg : c.getOutgoing ops C cfg fuel now m pid k = some (.ok (r, c'))) :
    Refines ops C cfg feed R c'.sessions := by
  obtain ⟨⟨o, c₁⟩, hn, hF⟩ := Option.map_eq_some'.mp hg
  have hsess := getNextActive_sessions hn
  cases o with
  | none => cases hF; rw [hsess]; exact h
  | some s =>
    obtain ⟨⟨out, s'⟩, hs, hc⟩ := map_eq_ok.mp hF
    cases hc
    show Refines ops C cfg feed R (c₁.sessions.set c₁.currentIndex s')
    rw [hsess]
    exact h.set (getNextActive_some hn).1 fun s₀ he =>
      .step he (fun d hd' => by cases hd') (Session.step_getOutgoing hs)

theorem registered_cons (R : List (Session D)) (a : Action D E) (as : List (Action D E)) :
    registered R (a :: as) = registered (registered R [a]) as := by
  cases a <;> rfl

/-- Every action keeps each session the one registered at its place, moved on by its own
steps and kills. -/
theorem step_refines {maxRetransmits : Int} {fuel : Nat} {c c' : Controller D} {a : Action D E}
    (h : Refines ops C cfg feed R c.sessions)
    (hs : c.step ops C cfg feed maxRetransmits fuel a = some (.ok c')) :
    Refines ops C cfg feed (registered R [a]) c'.sessions := by
  have kill_or (s : Session D) (p : Bool) : (if p then s.kill ops else s) = s ∨
      (if p then s.kill ops else s) = s.kill ops := by
    split_ifs <;> simp
  cases a with
  | addSession s => cases hs; exact h.append s
  | dataIncoming data =>
    obtain ⟨⟨c₁, b⟩, hd, rfl⟩ := map_eq_ok.mp (Option.some.inj hs)
    exact dataIncoming_refines h hd
  | getOutgoing now m pid k =>
    obtain ⟨r, hg, hr⟩ := Option.map_eq_some'.mp hs
    obtain ⟨⟨o, c₁⟩, rfl, rfl⟩ := map_eq_ok.mp hr
    exact getOutgoing_refines h hg
  | heartbeat =>
    cases hs
    unfold heartbeat killIgnoredSessions
    split_ifs
    · exact h
    · exact h.map fun s => kill_or s _
  | killAllSessions => cases hs; exact h.map fun s => kill_or s _
  | destroy => cases hs; exact ⟨rfl, by simp [destroy]⟩
  | driver i e =>
    cases hs
    exact h.modify fun s₀ s he =>
      .step he (fun d hd' => by cases hd') (show s.step ops C cfg feed (.driver e) = _ from rfl)

theorem steps_refines {maxRetransmits : Int} {fuel : Nat} :
    ∀ {as : List (Action D E)} {c c' : Controller D} {R : List (Session D)},
      Refines ops C cfg feed R c.sessions →
        c.steps ops C cfg feed maxRetransmits fuel as = some (.ok c') →
          Refines ops C cfg feed (registered R as) c'.sessions
  | [], _, _, _, h, hs => by cases hs; exact h
  | a :: as, c, c', R, h, hs => by
    obtain ⟨r, h₁, h₂⟩ := Option.bind_eq_some.mp hs
    cases r with
    | ok c₁ => rw [registered_cons]; exact steps_refines (step_refines h h₁) h₂
    | error e => cases h₂

end Refines

/-- Over every run of the controller, each place of its list holds the session registered
there since the last `Destroy`, moved on only by steps of its own and by kills, and every
frame handed to it carries its id, which no session registered before it has. -/
theorem steps_refine_sessions (maxRetransmits : Int) (fuel : Nat) {c₀ c : Controller D}
    {as : List (Action D E)} (h : c₀.steps ops C cfg feed maxRetransmits fuel as = some (.ok c)) :
    (registered c₀.sessions as).length = c.sessions.length ∧
      ∀ i s₀ s, (registered c₀.sessions as)[i]? = some s₀ → c.sessions[i]? = some s →
        Session.Evolves ops C cfg feed (Routed (registered c₀.sessions as) i) s₀ s :=
  steps_refines (refines_refl c₀.sessions) h

theorem steps_refine_sessions_two :
    ∃ (as : List (Action ConsoleDriver Stdin)) (c : Controller ConsoleDriver), as = [.addSession Renegotiation.start,
        .addSession Renegotiation.start, .heartbeat, .driver 1 (.read [1])] ∧
      new.steps consoleDriver Crypto.zero Renegotiation.cfg ConsoleDriver.feed 20 2 as =
        some (.ok c) ∧
      (registered new.sessions as).length = c.sessions.length ∧
        ∀ i s₀ s, (registered new.sessions as)[i]? = some s₀ → c.sessions[i]? = some s →
          Session.Evolves consoleDriver Crypto.zero Renegotiation.cfg ConsoleDriver.feed
            (Routed (registered new.sessions as) i) s₀ s :=
  ⟨_, _, rfl, rfl, steps_refine_sessions 20 2 rfl⟩

section Observed

variable {ops : Driver D} {feed : D → E → D}

/-- `DataIncoming` hands a frame to the first session with its id, even one shut down: a
session registered after another with the same id is never handed a frame. Over every run,
its state and both its sequence numbers stay as they were when it was registered, and its
driver receives nothing. -/
theorem shadowed_session_starves (maxRetransmits : Int) (fuel : Nat)
    {c₀ c : Controller (D × Traffic)} {as : List (Action (D × Traffic) E)}
    (h : c₀.steps ops.observed C cfg (Driver.observedFeed feed) maxRetransmits fuel as =
      some (.ok c))
    {i : Nat} {s₀ s : Session (D × Traffic)} (h₀ : (registered c₀.sessions as)[i]? = some s₀)
    (hs : c.sessions[i]? = some s) (hdup : ∃ t ∈ (registered c₀.sessions as).take i, t.id = s₀.id) :
    s.state = s₀.state ∧ s.theirSeq = s₀.theirSeq ∧ s.mySeq = s₀.mySeq ∧
      s.driver.2.received = s₀.driver.2.received := by
  refine ((steps_refines (refines_refl c₀.sessions) h).2 i s₀ s h₀ hs).quiet
    fun data ⟨u, hu, _, hn⟩ => ?_
  obtain ⟨t, ht, hid⟩ := hdup
  rw [h₀] at hu
  cases hu
  exact hn t ht hid

theorem shadowed_session_starves_twin :
    ∃ (a : Session (ConsoleDriver × Traffic)) (as : List (Action (ConsoleDriver × Traffic) Stdin))
      (c : Controller (ConsoleDriver × Traffic)) (s : Session (ConsoleDriver × Traffic)),
      a = { id := 1, state := .new, theirSeq := 0, mySeq := 7, name := [], options := 0,
            isCommand := false, isPing := false, driver := (ConsoleDriver.new, ⟨[], []⟩),
            outgoingBuffer := [], encryptor := none, newEncryptor := none, lastTransmit := none,
            missedTransmissions := 0, isShutdown := false } ∧
      as = [.addSession a, .addSession a, .driver 1 (.read [5])] ∧
      new.steps consoleDriver.observed Crypto.zero ⟨0, false, false, []⟩
        (Driver.observedFeed ConsoleDriver.feed) 20 2 as = some (.ok c) ∧
      (registered new.sessions as)[1]? = some a ∧ c.sessions[1]? = some s ∧
      (∃ t ∈ (registered new.sessions as).take 1, t.id = a.id) ∧
      (s.state = a.state ∧ s.theirSeq = a.theirSeq ∧ s.mySeq = a.mySeq ∧
        s.driver.2.received = a.driver.2.received) :=
  let a : Session (ConsoleDriver × Traffic) :=
    { id := 1, state := .new, theirSeq := 0, mySeq := 7, name := [], options := 0,
      isCommand := false, isPing := false, driver := (ConsoleDriver.new, ⟨[], []⟩),
      outgoingBuffer := [], encryptor := none, newEncryptor := none, lastTransmit := none,
      missedTransmissions := 0, isShutdown := false }
  ⟨a, _, _, _, rfl, rfl, rfl, rfl, rfl, ⟨a, List.mem_singleton.mpr rfl, rfl⟩,
    @shadowed_session_starves ConsoleDriver Stdin Crypto.zero ⟨0, false, false, []⟩ consoleDriver
      ConsoleDriver.feed 20 2 new _ [.addSession a, .addSession a, .driver 1 (.read [5])] rfl 1 _ _
      rfl rfl ⟨a, List.mem_singleton.mpr rfl, rfl⟩⟩

end Observed

/-- `DataIncoming` hands a frame to the session `getByID` finds for its id. -/
theorem dataIncoming_eq {c : Controller D} {data : Bytes} {sessionID : UInt16} {i : Nat}
    {s : Session D} (hp : peekSessionID data = .ok sessionID)
    (hg : getByID sessionID c.sessions = some (i, s)) :
    c.dataIncoming ops C cfg data =
      (fun r => ({ c with sessions := c.sessions.set i r.1 }, r.2)) <$>
        s.dataIncoming ops C cfg data := by
  simp only [dataIncoming, hp, hg]

/-- Over every run, a frame `GetOutgoing` emits and a frame that comes back with the same
session id meet at the same session: `DataIncoming` hands the reply to the session that sent
the frame, unless a session registered before it has that id. -/
theorem reply_reaches_sender (maxRetransmits : Int) (fuel : Nat) {c₀ c c' : Controller D}
    {as : List (Action D E)} (h : c₀.steps ops C cfg feed maxRetransmits fuel as = some (.ok c))
    {now : Nat} {m : Int} {pid : UInt16} {k : Option Bytes} {out : Bytes}
    (hg : c.getOutgoing ops C cfg fuel now m pid k = some (.ok ((some out, true), c')))
    (hu : ∀ t ∈ (registered c₀.sessions as).take c'.currentIndex, peekSessionID out ≠ .ok t.id)
    {reply : Bytes} (hr : peekSessionID reply = peekSessionID out) :
    ∃ s, c'.sessions[c'.currentIndex]? = some s ∧
      c'.dataIncoming ops C cfg reply =
        (fun r => ({ c' with sessions := c'.sessions.set c'.currentIndex r.1 }, r.2)) <$>
          s.dataIncoming ops C cfg reply := by
  have href : Refines ops C cfg feed (registered c₀.sessions as) c'.sessions :=
    getOutgoing_refines (steps_refines (refines_refl c₀.sessions) h) hg
  obtain ⟨⟨o, c₁⟩, hn, hF⟩ := Option.map_eq_some'.mp hg
  rcases o with _ | s₁
  · cases hF
  obtain ⟨⟨o, s'⟩, hs, hc⟩ := map_eq_ok.mp hF
  cases hc
  obtain ⟨hget, -⟩ := getNextActive_some hn
  rw [getNextActive_sessions hn] at href ⊢
  have hpeek : peekSessionID out = .ok s'.id := by
    rw [Session.getOutgoing_peekSessionID hs,
      (Session.step_ident (Session.step_getOutgoing hs : s₁.step ops C cfg feed _ = _)).1]
  have hset : (c.sessions.set c₁.currentIndex s')[c₁.currentIndex]? = some s' :=
    List.getElem?_set_self (List.getElem?_eq_some_iff.mp hget).1
  refine ⟨s', hset, dataIncoming_eq (hr.trans hpeek) (getByID_eq_some.mpr ⟨hset, rfl, ?_⟩)⟩
  intro t ht hid
  obtain ⟨t₀, ht₀, hid₀⟩ := exists_mem_take_of_map_eq href.ids.symm ht
  exact hu t₀ ht₀ (by rw [hpeek, hid₀, hid])

theorem reply_reaches_sender_syn :
    ∃ (as : List (Action ConsoleDriver Stdin)) (c c' : Controller ConsoleDriver) (out : Bytes),
      as = [.addSession { Renegotiation.start with state := .new, encryptor := none }] ∧
      new.steps consoleDriver Crypto.zero ⟨0, false, false, []⟩ ConsoleDriver.feed 20 1 as =
        some (.ok c) ∧
      c.getOutgoing consoleDriver Crypto.zero ⟨0, false, false, []⟩ 1 1 100 0 none =
        some (.ok ((some out, true), c')) ∧
      (∀ t ∈ (registered new.sessions as).take c'.currentIndex, peekSessionID out ≠ .ok t.id) ∧
      ∃ s, c'.sessions[c'.currentIndex]? = some s ∧
        c'.dataIncoming consoleDriver Crypto.zero ⟨0, false, false, []⟩ out =
          (fun r => ({ c' with sessions := c'.sessions.set c'.currentIndex r.1 }, r.2)) <$>
            s.dataIncoming consoleDriver Crypto.zero ⟨0, false, false, []⟩ out :=
  ⟨_, _, _, _, rfl, rfl, rfl, fun _ ht => absurd ht (List.not_mem_nil _),
    @reply_reaches_sender ConsoleDriver Stdin consoleDriver Crypto.zero ⟨0, false, false, []⟩
      ConsoleDriver.feed 20 1 new _ _
      [.addSession { Renegotiation.start with state := .new, encryptor := none }] rfl 1 100 0 none _
      rfl (fun _ ht => absurd ht (List.not_mem_nil _)) _ rfl⟩

end Controller

end Dnscat2
