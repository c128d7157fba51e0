import SplitPanel.Proofs.Exchanges
import SplitPanel.Proofs.ReportKinds

/-!
# Answers to requests

A request is written as one report, and then reports are read until one of them answers it.  Four
bytes tell an answer: its kind, the command and the screen of the request, and the result.  All that
comes before the answer is passed over, events being queued, and nothing is read behind it.  So a
request never ends with the answer to another one, and no answer to it is left for a later one to
find, unless the wait for it was given up.
-/

namespace SplitPanel.Host

/-- A report that answers a request, whatever its payload. -/
def Answers (asked : Request) (verdict : Verdict) (frame : Frame) : Prop :=
  ∃ payload, frame.bytes = verdict.toByte :: ReportKind.response.toByte ::
    asked.command.toByte :: asked.screen.toByte :: payload

/-- Why a report does not end the wait for an answer. -/
inductive PassedOver (asked : Request) (frame : Frame) : Prop where
  | event {event : TagEvent} (hevent : TagEvent.ofBytes frame.bytes = .ok (some event))
  | otherResponse {response : Response}
      (hresponse : Response.ofBytes frame.bytes = .ok (some response))
      (hother : response.command ≠ asked.command.toByte ∨
        response.screen ≠ asked.screen.toByte)
  | malformed (hevent : ∀ event, TagEvent.ofBytes frame.bytes ≠ .ok (some event))
      (hresponse : ∀ response, Response.ofBytes frame.bytes ≠ .ok (some response))

/-- How a wait ends: its last uses of the connection, the report that decides it, and its result. -/
inductive Decided (asked : Request) :
    List Use → Option Frame → Except HostFault Frame → Prop where
  | accepted {frame : Frame} (hanswers : Answers asked .success frame) :
      Decided asked [.clocked, .read (.ok (some frame))] (some frame) (.ok frame)
  | refused {frame : Frame} (hanswers : Answers asked .failure frame) :
      Decided asked [.clocked, .read (.ok (some frame))] (some frame)
        (.error (.rejected asked.command asked.screen))
  | late : Decided asked [.clocked] none (.error (.timeout asked.command asked.screen))
  | silent :
      Decided asked [.clocked, .read (.ok none)] none
        (.error (.timeout asked.command asked.screen))
  | broken (fault : HostFault) :
      Decided asked [.clocked, .read (.error fault)] none (.error fault)

section

variable {asked : Request} {verdict : Verdict} {frame : Frame}

theorem Answers.ofBytes_eq (hanswers : Answers asked verdict frame) :
    ∃ payload, Response.ofBytes frame.bytes = .ok (some {
      result := verdict
      command := asked.command.toByte
      screen := asked.screen.toByte
      payload }) := by
  obtain ⟨payload, hbytes⟩ := hanswers
  exact ⟨payload, Response.ofBytes_eq_some_iff.mpr hbytes⟩

/-- A response with the command and the screen of a request answers it. -/
theorem answers_of_ofBytes {response : Response}
    (hresponse : Response.ofBytes frame.bytes = .ok (some response))
    (hcommand : response.command = asked.command.toByte)
    (hscreen : response.screen = asked.screen.toByte) :
    Answers asked response.result frame := by
  refine ⟨response.payload, ?_⟩
  rw [← hcommand, ← hscreen]
  exact Response.ofBytes_eq_some_iff.mp hresponse

/-- A report that is passed over is not an answer. -/
theorem PassedOver.not_answers (hpassed : PassedOver asked frame) (verdict : Verdict) :
    ¬ Answers asked verdict frame := by
  intro hanswers
  obtain ⟨payload, hread⟩ := hanswers.ofBytes_eq
  cases hpassed with
  | event hevent =>
      rw [TagEvent.ofBytes_of_response hread, Except.ok.injEq] at hevent
      contradiction
  | otherResponse hresponse hother =>
      rw [hread, Except.ok.injEq, Option.some.injEq] at hresponse
      subst hresponse
      simp at hother
  | malformed _ hresponse => exact hresponse _ hread

/-- What is found to be an answer is one, and says how the request went. -/
theorem verdict?_cases {found : Except HostFault Frame}
    (hfound : verdict? asked frame = some found) :
    Answers asked .success frame ∧ found = .ok frame ∨
      Answers asked .failure frame ∧ found = .error (.rejected asked.command asked.screen) := by
  rw [verdict?] at hfound
  split at hfound
  · next response hresponse =>
    split at hfound
    · next hsame =>
      have hanswers := answers_of_ofBytes hresponse hsame.1 hsame.2
      cases hresult : response.result with
      | success =>
          rw [hresult] at hanswers hfound
          exact .inl ⟨hanswers, (Option.some.inj hfound).symm⟩
      | failure =>
          rw [hresult] at hanswers hfound
          exact .inr ⟨hanswers, (Option.some.inj hfound).symm⟩
    · contradiction
  · contradiction

/-- What is neither an event nor found to be an answer is passed over with reason. -/
theorem passedOver_of_none (hevent : eventOf? frame = none)
    (hfound : verdict? asked frame = none) : PassedOver asked frame := by
  have hno : ∀ event, TagEvent.ofBytes frame.bytes ≠ .ok (some event) := by
    intro event hread
    rw [eventOf?_eq_some_iff.mpr hread] at hevent
    contradiction
  rw [verdict?] at hfound
  split at hfound
  · next response hresponse =>
    split at hfound
    · next hsame => cases hresult : response.result <;> simp [hresult] at hfound
    · next hother => exact .otherResponse hresponse (not_and_or.mp hother)
  · next hnone => exact .malformed hno hnone

end

/-! ## The uses that a wait makes -/

namespace Recorded

variable {σ : Type}

/-- All uses of a connection, in order. -/
def uses (recorded : Recorded σ) : List Use :=
  recorded.record.map Prod.fst

theorem uses_note (use : Use) (next : σ) (recorded : Recorded σ) :
    (recorded.note use next).uses = recorded.uses ++ [use] := by
  rw [uses, note, List.map_append, uses, List.map_singleton]

theorem heard_eq (recorded : Recorded σ) : recorded.heard = recorded.uses.filterMap Use.heard? := by
  rw [uses, List.filterMap_map]
  rfl

variable [Connection σ]

theorem uses_clock (recorded : Recorded σ) :
    (Connection.clock recorded).1.uses = recorded.uses ++ [.clocked] :=
  uses_note ..

theorem uses_write {recorded next : Recorded σ} {report : Report} {result : Except HostFault Unit}
    (hwrite : Connection.write report recorded = (next, result)) :
    next.uses = recorded.uses ++ [.wrote report result] := by
  rw [eq_note_of_write hwrite, uses_note]

theorem uses_turn {recorded next : Recorded σ} {wait : ℕ}
    {result : Except HostFault (Option Frame)}
    (hread : Connection.read wait (Connection.clock recorded).1 = (next, result)) :
    next.uses = recorded.uses ++ [.clocked, .read result] := by
  rw [eq_note_of_read hread, uses_note, uses_clock, List.append_assoc]
  rfl

end Recorded

/-- A look at the clock, and then a report that is read. -/
def turn (frame : Frame) : List Use :=
  [.clocked, .read (.ok (some frame))]

theorem attempted?_of_mem_waits {asked : Request} {passed : List Frame} {final : List Use}
    {decisive? : Option Frame} {result : Except HostFault Frame}
    (hdecided : Decided asked final decisive? result) {use : Use}
    (huse : use ∈ passed.flatMap turn ++ final) : use.attempted? = none := by
  rcases List.mem_append.mp huse with hpassed | hfinal
  · obtain ⟨frame, -, hturn⟩ := List.mem_flatMap.mp hpassed
    cases hturn with
    | head => rfl
    | tail _ hlast =>
        obtain rfl := List.mem_singleton.mp hlast
        rfl
  · cases hdecided <;> simp at hfinal <;> rcases hfinal with rfl | rfl <;> rfl

theorem heard_waits (passed : List Frame) {asked : Request} {final : List Use}
    {decisive? : Option Frame} {result : Except HostFault Frame}
    (hdecided : Decided asked final decisive? result) :
    (passed.flatMap turn ++ final).filterMap Use.heard? = passed ++ decisive?.toList := by
  rw [List.filterMap_append]
  congr 1
  · induction passed with
    | nil => rfl
    | cons frame rest ih =>
        rw [List.flatMap_cons, List.filterMap_append, ih]
        rfl
  · cases hdecided <;> rfl

namespace Decided

variable {asked : Request} {final : List Use} {decisive? : Option Frame}
  {result : Except HostFault Frame}

theorem getLast?_append (hdecided : Decided asked final decisive? result) (earlier : List Use) :
    (earlier ++ final).getLast? = final.getLast? := by
  cases hdecided <;> rw [List.getLast?_append] <;> rfl

/-- Nothing is read behind the report that decides. -/
theorem getLast?_of_some {frame : Frame} (hdecided : Decided asked final (some frame) result) :
    final.getLast? = some (.read (.ok (some frame))) := by
  cases hdecided <;> rfl

theorem of_ok {frame : Frame} (hdecided : Decided asked final decisive? (.ok frame)) :
    decisive? = some frame ∧ Answers asked .success frame := by
  cases hdecided with
  | accepted hanswers => exact ⟨rfl, hanswers⟩

theorem of_timeout
    (hdecided :
      Decided asked final decisive? (.error (.timeout asked.command asked.screen))) :
    decisive? = none := by
  cases hdecided <;> rfl

theorem of_error {fault : HostFault} (hdecided : Decided asked final decisive? (.error fault)) :
    (∃ frame, decisive? = some frame ∧ Answers asked .failure frame ∧
      fault = .rejected asked.command asked.screen) ∨
    decisive? = none ∧ (fault = .timeout asked.command asked.screen ∨
      final.getLast? = some (.read (.error fault))) := by
  cases hdecided with
  | refused hanswers => exact .inl ⟨_, rfl, hanswers, rfl⟩
  | late | silent => exact .inr ⟨rfl, .inl rfl⟩
  | broken => exact .inr ⟨rfl, .inr rfl⟩

end Decided

namespace Conversation

variable {σ : Type} [Connection σ]

/-- A wait passes reports over, queueing the events among them, until one report decides it, its
time is over or its connection fails. -/
theorem awaitResponse_decided (asked : Request) (deadline : ℕ)
    (conversation : Conversation (Recorded σ)) :
    ∃ (passed : List Frame) (final : List Use) (decisive? : Option Frame),
      (∀ frame ∈ passed, PassedOver asked frame) ∧
      Decided asked final decisive? (conversation.awaitResponse asked deadline).2 ∧
      (conversation.awaitResponse asked deadline).1.connection.uses =
        conversation.connection.uses ++ (passed.flatMap turn ++ final) ∧
      (conversation.awaitResponse asked deadline).1 = { conversation with
        connection := (conversation.awaitResponse asked deadline).1.connection
        events := conversation.events ++ decodedEvents passed } := by
  fun_induction awaitResponse asked deadline conversation with
  | case1 conversation _ _ hover =>
      refine ⟨[], _, _, List.forall_mem_nil _, .late, Recorded.uses_clock _, ?_⟩
      rw [decodedEvents_nil, List.append_nil]
  | case2 conversation _ _ hahead next fault hread =>
      refine ⟨[], _, _, List.forall_mem_nil _, .broken fault, Recorded.uses_turn hread, ?_⟩
      rw [decodedEvents_nil, List.append_nil]
  | case3 conversation _ _ hahead next hread =>
      refine ⟨[], _, _, List.forall_mem_nil _, .silent, Recorded.uses_turn hread, ?_⟩
      rw [decodedEvents_nil, List.append_nil]
  | case4 conversation _ _ hahead next frame hread event hevent ih =>
      obtain ⟨passed, final, decisive?, hpassed, hdecided, huses, hkept⟩ := ih
      have hreason : PassedOver asked frame := .event (eventOf?_eq_some_iff.mp hevent)
      refine ⟨frame :: passed, final, decisive?, List.forall_mem_cons.mpr ⟨hreason, hpassed⟩,
        hdecided, ?_, ?_⟩
      · rw [huses, Recorded.uses_turn hread, List.append_assoc]
        rfl
      · rw [decodedEvents_cons, hevent, hkept, List.append_assoc]
        rfl
  | case5 conversation _ _ hahead next frame hread hevent verdict hverdict =>
      rcases verdict?_cases hverdict with ⟨hanswers, rfl⟩ | ⟨hanswers, rfl⟩
      · refine ⟨[], _, _, List.forall_mem_nil _, .accepted hanswers, Recorded.uses_turn hread, ?_⟩
        rw [decodedEvents_nil, List.append_nil]
      · refine ⟨[], _, _, List.forall_mem_nil _, .refused hanswers, Recorded.uses_turn hread, ?_⟩
        rw [decodedEvents_nil, List.append_nil]
  | case6 conversation _ _ hahead next frame hread hevent hverdict ih =>
      obtain ⟨passed, final, decisive?, hpassed, hdecided, huses, hkept⟩ := ih
      have hreason : PassedOver asked frame := passedOver_of_none hevent hverdict
      refine ⟨frame :: passed, final, decisive?, List.forall_mem_cons.mpr ⟨hreason, hpassed⟩,
        hdecided, ?_, ?_⟩
      · rw [huses, Recorded.uses_turn hread, List.append_assoc]
        rfl
      · rw [decodedEvents_cons, hevent, hkept]
        rfl

/-- What a request does with its connection and comes to, where `passed` are the reports that are
passed over and `decisive?` is the one that ends the wait. -/
structure RequestCourse (asked : Request) (before : Conversation σ)
    (call : Conversation (Recorded σ) × Except HostFault Frame) (sent : Except HostFault Unit)
    (waits : List Use) (passed : List Frame) (decisive? : Option Frame) : Prop where
  uses_eq : call.1.connection.uses = .wrote asked.toFrame.report sent :: waits
  written_once : ∀ use ∈ waits, use.attempted? = none
  heard_eq : call.1.connection.heard = passed ++ decisive?.toList
  state_eq : call.1 = { before.recorded with
    connection := call.1.connection
    events := before.events ++ decodedEvents passed }
  unwritten : ∀ fault, sent = .error fault →
    waits = [] ∧ passed = [] ∧ decisive? = none ∧ call.2 = .error fault
  passed_over : ∀ frame ∈ passed,
    PassedOver asked frame ∧ ∀ verdict, ¬ Answers asked verdict frame
  decisive_last : ∀ frame, decisive? = some frame →
    waits.getLast? = some (.read (.ok (some frame)))
  of_ok : ∀ frame, call.2 = .ok frame → decisive? = some frame ∧ Answers asked .success frame
  of_timeout : call.2 = .error (.timeout asked.command asked.screen) → decisive? = none
  of_error : ∀ fault, call.2 = .error fault →
    (∃ frame, decisive? = some frame ∧ Answers asked .failure frame ∧
      fault = .rejected asked.command asked.screen) ∨
    decisive? = none ∧ (fault = .timeout asked.command asked.screen ∨
      sent = .error fault ∨ waits.getLast? = some (.read (.error fault)))

section

variable {asked : Request} {conversation : Conversation σ} {next : Recorded σ}

theorem requestCourse_of_unwritten {fault : HostFault}
    (hwrite : Connection.write asked.toFrame.report conversation.recorded.connection =
      (next, .error fault)) :
    RequestCourse asked conversation
      ({ conversation.recorded with connection := next }, .error fault) (.error fault) [] []
      none where
  uses_eq := Recorded.uses_write hwrite
  written_once := List.forall_mem_nil _
  heard_eq := by
    rw [Recorded.heard_eq, Recorded.uses_write hwrite]
    rfl
  state_eq := by
    rw [decodedEvents_nil, List.append_nil]
    rfl
  unwritten := by
    rintro _ ⟨⟩
    exact ⟨rfl, rfl, rfl, rfl⟩
  passed_over := List.forall_mem_nil _
  decisive_last := by
    rintro frame ⟨⟩
  of_ok := by
    rintro frame ⟨⟩
  of_timeout _ := rfl
  of_error := by
    rintro _ ⟨⟩
    exact .inr ⟨rfl, .inr (.inl rfl)⟩

theorem exists_requestCourse_of_written
    (hwrite : Connection.write asked.toFrame.report conversation.recorded.connection =
      (next, .ok ())) (deadline : ℕ) :
    ∃ waits passed decisive?,
      RequestCourse asked conversation
        ({ conversation.recorded with
            connection := (Connection.clock next).1 }.awaitResponse asked deadline)
        (.ok ()) waits passed decisive? := by
  obtain ⟨passed, final, decisive?, hpassed, hdecided, huses, hkept⟩ :=
    awaitResponse_decided asked deadline
      { conversation.recorded with connection := (Connection.clock next).1 }
  have hbefore : (Connection.clock next).1.uses =
      [.wrote asked.toFrame.report (.ok ()), .clocked] := by
    rw [Recorded.uses_clock, Recorded.uses_write hwrite]
    rfl
  have hrecord := huses.trans (congrArg (· ++ (passed.flatMap turn ++ final)) hbefore)
  have hlast : (.clocked :: (passed.flatMap turn ++ final) : List Use).getLast? =
      final.getLast? := hdecided.getLast?_append (.clocked :: passed.flatMap turn)
  refine ⟨.clocked :: (passed.flatMap turn ++ final), passed, decisive?, ?_⟩
  constructor
  case uses_eq => exact hrecord
  case written_once =>
    exact List.forall_mem_cons.mpr ⟨rfl, fun use => attempted?_of_mem_waits hdecided⟩
  case heard_eq =>
    rw [Recorded.heard_eq, hrecord]
    exact heard_waits passed hdecided
  case state_eq => exact hkept
  case unwritten => rintro fault ⟨⟩
  case passed_over =>
    intro frame hframe
    exact ⟨hpassed frame hframe, (hpassed frame hframe).not_answers⟩
  case decisive_last =>
    rintro frame rfl
    exact hlast.trans hdecided.getLast?_of_some
  case of_ok =>
    intro frame hok
    rw [hok] at hdecided
    exact hdecided.of_ok
  case of_timeout =>
    intro htimeout
    rw [htimeout] at hdecided
    exact hdecided.of_timeout
  case of_error =>
    intro fault hfault
    rw [hfault] at hdecided
    rcases hdecided.of_error with hrefused | ⟨hnone, htimeout | hbroken⟩
    · exact .inl hrefused
    · exact .inr ⟨hnone, .inl htimeout⟩
    · exact .inr ⟨hnone, .inr (.inr (hlast.trans hbroken))⟩

end

/-- A request is written once.  If that fails, nothing is read and the conversation is as it was.
Otherwise reports are read up to the first answer to the request, which is what the request comes
to; all that is read before is passed over, the events among it being queued.  Without an answer the
request is over in time, or its connection failed. -/
theorem request_decided_by_first_answer (asked : Request) (conversation : Conversation σ) :
    let call := conversation.recorded.request asked
    conversation.request asked = (call.1.unrecorded, call.2) ∧
    ∃ sent waits passed decisive?,
      RequestCourse asked conversation call sent waits passed decisive? := by
  intro call
  refine ⟨request_unrecorded asked conversation.recorded, ?_⟩
  rcases conversation.recorded.request_cases asked with
    ⟨next, fault, hwrite, hcall⟩ | ⟨next, hwrite, hcall⟩
  · have hcourse := requestCourse_of_unwritten hwrite
    rw [← hcall] at hcourse
    exact ⟨_, _, _, _, hcourse⟩
  · obtain ⟨waits, passed, decisive?, hcourse⟩ := exists_requestCourse_of_written hwrite
      ((Connection.clock next).2 + conversation.recorded.timeout)
    rw [← hcall] at hcourse
    exact ⟨_, waits, passed, decisive?, hcourse⟩

end Conversation

end SplitPanel.Host
