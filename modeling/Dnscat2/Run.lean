import Dnscat2.SessionSpec

/-!
Runs of a session. A run is a sequence of events: a call of `GetOutgoing` or
`DataIncoming` with what the environment supplies to it, or a step of the
driver's own goroutines. `Reach` is the set of states a run can reach, with the
value of an observer folded along the run (a ghost, which the session never
reads), when the environment only takes the steps `allowed` admits; every
property of every run is an invariant of `Reach`, proved from one lemma per kind
of step.
-/

namespace Dnscat2

/-- A call into a session, with what the environment supplies for it. -/
inductive Call
  | getOutgoing (now : Nat) (maxLength : Int) (packetID : UInt16) (privateKey : Option Bytes)
  | dataIncoming (data : Bytes)

inductive Event (E : Type)
  | call (c : Call)
  | driver (e : E)

variable {D E G : Type} (ops : Driver D) (C : Crypto) (cfg : Config) (feed : D → E → D)

namespace Session

def call (s : Session D) : Call → Except Halt (Session D)
  | .getOutgoing now maxLength packetID privateKey =>
    Prod.snd <$> s.getOutgoing ops C cfg now maxLength packetID privateKey
  | .dataIncoming data => Prod.fst <$> s.dataIncoming ops C cfg data

def step (s : Session D) : Event E → Except Halt (Session D)
  | .call c => s.call ops C cfg c
  | .driver e => .ok { s with driver := feed s.driver e }

/-- A run from `s`: the session after the events, or how it stopped. -/
def run (s : Session D) : List (Event E) → Except Halt (Session D)
  | [] => .ok s
  | e :: es => (s.step ops C cfg feed e).bind fun s => s.run es

/-- The states runs from `s₀` reach, with the ghost `observe` builds from `g₀`, when the
environment only takes the steps `allowed` admits. -/
inductive Reach (allowed : Session D → G → Event E → Prop)
    (observe : Session D → Event E → Session D → G → G) (s₀ : Session D) (g₀ : G) :
    Session D → G → Prop
  | init : Reach allowed observe s₀ g₀ s₀ g₀
  | step {s g e s'} : Reach allowed observe s₀ g₀ s g → allowed s g e →
      s.step ops C cfg feed e = .ok s' → Reach allowed observe s₀ g₀ s' (observe s e s' g)

variable {ops C cfg feed}

theorem Reach.run {allowed : Session D → G → Event E → Prop}
    {observe : Session D → Event E → Session D → G → G} {s₀ : Session D} {g₀ : G}
    (hall : ∀ s g e, allowed s g e) :
    ∀ {es : List (Event E)} {s s' : Session D} {g : G},
      Reach ops C cfg feed allowed observe s₀ g₀ s g → s.run ops C cfg feed es = .ok s' →
        ∃ g', Reach ops C cfg feed allowed observe s₀ g₀ s' g'
  | [], _, _, g, hr, h => ⟨g, by cases h; exact hr⟩
  | e :: _, _, _, _, hr, h =>
    let ⟨_, h₁, h⟩ := bind_eq_ok.mp h
    Reach.run hall (.step hr (hall _ _ e) h₁) h

/-- Every state a run reaches is in `Reach` with no restriction on the environment, for
any observer. -/
theorem reach_of_run {s₀ s : Session D} {es : List (Event E)}
    (observe : Session D → Event E → Session D → G → G) (g₀ : G)
    (h : s₀.run ops C cfg feed es = .ok s) :
    ∃ g, Reach ops C cfg feed (fun _ _ _ => True) observe s₀ g₀ s g :=
  Reach.run (fun _ _ _ => trivial) .init h

/-! ### What no step changes: which session it is -/

/-- The type switch never changes the session's id, or which kind of session it is. -/
theorem dispatch_ident {s s' : Session D} {pkt : Packet} {b : Bool}
    (h : s.dispatch ops C cfg pkt = .ok (s', b)) : s'.id = s.id ∧ s'.isPing = s.isPing := by
  rcases dispatch_ok h with ⟨-, -, -, ping, d, -, -, rfl⟩ | ⟨-, h⟩ | ⟨-, h⟩ | ⟨-, h⟩ | ⟨-, h⟩ |
    ⟨rfl, -⟩
  · exact ⟨rfl, rfl⟩
  · rcases handleSYN_ok h with ⟨-, rfl, -⟩ | ⟨-, -, syn, -, rfl⟩ <;> exact ⟨rfl, rfl⟩
  · rcases handleMSG_ok h with ⟨rfl, -⟩ | ⟨-, msg, -, -, -, -, ⟨-, rfl⟩ | ⟨-, d, -, rfl⟩⟩
    · exact ⟨rfl, rfl⟩
    all_goals rw [acceptMSG_eq]; exact ⟨rfl, rfl⟩
  · obtain ⟨-, rfl⟩ := handleFIN_ok h
    rw [kill_eq]
    exact ⟨rfl, rfl⟩
  · obtain ⟨-, enc, -, ⟨-, -, e, e', -, -, rfl⟩ | ⟨-, -, e, -, -, rfl⟩ | ⟨-, ne, ne', -, -, rfl⟩⟩ :=
      handleENC_ok h <;> exact ⟨rfl, rfl⟩
  · exact ⟨rfl, rfl⟩

theorem step_ident {s s' : Session D} {ev : Event E} (h : s.step ops C cfg feed ev = .ok s') :
    s'.id = s.id ∧ s'.isPing = s.isPing := by
  rcases ev with (⟨now, m, pid, k⟩ | data) | e
  · obtain ⟨⟨r, s₂⟩, hg, rfl⟩ := map_eq_ok.mp h
    obtain ⟨s₁, hp, ht⟩ := getOutgoing_ok hg
    rw [transmit_frame ht, (pollDriverForData_frame hp).1]
    exact ⟨rfl, rfl⟩
  · obtain ⟨⟨s₂, b⟩, hd, rfl⟩ := map_eq_ok.mp h
    obtain ⟨s₁, hp, hdec⟩ := dataIncoming_ok hd
    have hf : s₁.id = s.id ∧ s₁.isPing = s.isPing := by
      rw [(pollDriverForData_frame hp).1]
      exact ⟨rfl, rfl⟩
    rcases hdec with ⟨-, rfl, -⟩ | ⟨pkt, -, hdisp⟩
    · exact hf
    · exact ⟨(dispatch_ident hdisp).1.trans hf.1, (dispatch_ident hdisp).2.trans hf.2⟩
  · cases h
    exact ⟨rfl, rfl⟩

/-- Every run keeps the session's id and kind. -/
theorem ident_reach {allowed : Session D → G → Event E → Prop}
    {observe : Session D → Event E → Session D → G → G} {s₀ s : Session D} {g₀ g : G}
    (hr : Reach ops C cfg feed allowed observe s₀ g₀ s g) :
    s.id = s₀.id ∧ s.isPing = s₀.isPing := by
  induction hr with
  | init => exact ⟨rfl, rfl⟩
  | step _ _ hs ih => exact ⟨(step_ident hs).1.trans ih.1, (step_ident hs).2.trans ih.2⟩

end Session

/-- Over every run, every frame the session emits, in clear or encrypted and signed, carries
the id the session was created with where the controller's `PeekSessionID` reads it. -/
theorem emitted_frames_routed (ops : Driver D) (C : Crypto) (cfg : Config) (feed : D → E → D)
    {s₀ s s' : Session D} (es : List (Event E)) {now : Nat} {m : Int} {pid : UInt16}
    {k : Option Bytes} {out : Bytes} (hr : s₀.run ops C cfg feed es = .ok s)
    (h : s.getOutgoing ops C cfg now m pid k = .ok (some out, s')) :
    peekSessionID out = .ok s₀.id := by
  obtain ⟨g, hr⟩ := Session.reach_of_run (fun _ _ _ g => g) () hr
  rw [Session.getOutgoing_peekSessionID h, (Session.ident_reach hr).1]

/-- A console session from `Session.new`: "hi" typed, its SYN sent, the server's SYN taken in;
the MSG it then emits is routed back to it. -/
theorem emitted_frames_routed_new :
    ∃ s₀ s out s', Session.new Crypto.zero ⟨0, false, false, []⟩ ConsoleDriver.new [] [] 1 7 none =
        .ok s₀ ∧
      s₀.run consoleDriver Crypto.zero ⟨0, false, false, []⟩ ConsoleDriver.feed
        [.driver (.read [104, 105]), .call (.getOutgoing 1 100 0 none),
         .call (.dataIncoming [0, 2, 0, 0, 1, 0, 100, 0, 0])] = .ok s ∧
      s.getOutgoing consoleDriver Crypto.zero ⟨0, false, false, []⟩ 2 100 0 none =
        .ok (some out, s') ∧
      peekSessionID out = .ok s₀.id :=
  ⟨_, _, _, _, rfl, rfl, rfl,
    @emitted_frames_routed _ _ consoleDriver Crypto.zero ⟨0, false, false, []⟩ ConsoleDriver.feed
      _ _ _ [.driver (.read [104, 105]), .call (.getOutgoing 1 100 0 none),
       .call (.dataIncoming [0, 2, 0, 0, 1, 0, 100, 0, 0])] 2 100 0 none _ rfl rfl⟩

end Dnscat2
