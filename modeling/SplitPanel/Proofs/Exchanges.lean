import Mathlib.Data.List.Induction
import SplitPanel.Host.Session
import SplitPanel.Proofs.ShownAtOnce

/-!
# Exchanges

A request with what came of it is an exchange.  A conversation is a course of exchanges with pauses
and looks at the connection in between.  Whatever a conversation is called to do, there are requests
that it makes for that, one after the other.  It makes none after one that failed, and fails itself
with the same fault.
-/

namespace SplitPanel.Host

/-- A list that grows is split at its new member, or as it was split before. -/
theorem split_of_concat {α : Type} {list earlier later : List α} {last member : α}
    (hsplit : list ++ [last] = earlier ++ member :: later) :
    (later = [] ∧ list = earlier ∧ last = member) ∨
      ∃ rest, later = rest ++ [last] ∧ list = earlier ++ member :: rest := by
  cases later using List.reverseRecOn with
  | nil =>
      rw [List.append_singleton_inj] at hsplit
      exact .inl ⟨rfl, hsplit⟩
  | append_singleton rest other =>
      rw [← List.cons_append, ← List.append_assoc, List.append_singleton_inj] at hsplit
      obtain ⟨hlist, rfl⟩ := hsplit
      exact .inr ⟨rest, rfl, hlist⟩

/-- A request with what came of it. -/
abbrev Exchange : Type :=
  Request × Except HostFault Frame

def faultOf? {α : Type} : Except HostFault α → Option HostFault
  | .ok _ => none
  | .error fault => some fault

theorem faultOf?_eq_some {α : Type} {result : Except HostFault α} {fault : HostFault} :
    faultOf? result = some fault ↔ result = .error fault := by
  cases result <;> simp [faultOf?]

/-- Exchanges that were all answered, up to the last one at most.  Where that one failed, its fault
is the given one. -/
inductive Unbroken : List Exchange → Option HostFault → Prop where
  | answered {exchanges : List Exchange}
      (hall : ∀ exchange ∈ exchanges, faultOf? exchange.2 = none) (fault? : Option HostFault) :
      Unbroken exchanges fault?
  | broken {exchanges : List Exchange}
      (hall : ∀ exchange ∈ exchanges, faultOf? exchange.2 = none) (request : Request)
      (fault : HostFault) :
      Unbroken (exchanges ++ [(request, .error fault)]) (some fault)

namespace Unbroken

variable {exchanges more : List Exchange} {fault? : Option HostFault}

theorem nil (fault? : Option HostFault) : Unbroken [] fault? :=
  .answered (List.forall_mem_nil _) fault?

theorem singleton (request : Request) (result : Except HostFault Frame) :
    Unbroken [(request, result)] (faultOf? result) := by
  cases result with
  | ok frame => exact .answered (List.forall_mem_singleton.mpr rfl) none
  | error fault => exact .broken (List.forall_mem_nil _) request fault

theorem all_answered (hexchanges : Unbroken exchanges none) :
    ∀ exchange ∈ exchanges, faultOf? exchange.2 = none := by
  cases hexchanges with
  | answered hall => exact hall

/-- Exchanges are only followed by more of them if all was well. -/
theorem append (hexchanges : Unbroken exchanges none) (hmore : Unbroken more fault?) :
    Unbroken (exchanges ++ more) fault? := by
  have hearlier := hexchanges.all_answered
  cases hmore with
  | answered hall => exact .answered (List.forall_mem_append.mpr ⟨hearlier, hall⟩) fault?
  | broken hall request fault =>
      rw [← List.append_assoc]
      exact .broken (List.forall_mem_append.mpr ⟨hearlier, hall⟩) request fault

/-- An exchange that failed is the last one, and its fault is the given one. -/
theorem last_of_error (hexchanges : Unbroken exchanges fault?) {earlier later : List Exchange}
    {request : Request} {fault : HostFault}
    (hsplit : exchanges = earlier ++ (request, .error fault) :: later) :
    later = [] ∧ fault? = some fault := by
  cases hexchanges with
  | answered hall =>
      rw [hsplit] at hall
      have hfailed := hall (request, .error fault) List.mem_append_cons_self
      contradiction
  | @broken answered hall last other =>
      rcases split_of_concat hsplit with ⟨hlater, -, hlast⟩ | ⟨rest, -, hanswered⟩
      · cases hlast
        exact ⟨hlater, rfl⟩
      · rw [hanswered] at hall
        have hfailed := hall (request, .error fault) List.mem_append_cons_self
        contradiction

end Unbroken

/-- Exchanges that were made for requests, one after the other, as long as there was no fault. -/
structure MadeFor (requests : List Request) (exchanges : List Exchange)
    (fault? : Option HostFault) : Prop where
  unbroken : Unbroken exchanges fault?
  made_first : exchanges.map Prod.fst <+: requests
  made_all : fault? = none → exchanges.map Prod.fst = requests

namespace MadeFor

variable {requests later : List Request} {exchanges more : List Exchange}
  {fault? : Option HostFault}

theorem nil (fault? : Option HostFault) : MadeFor [] [] fault? where
  unbroken := .nil fault?
  made_first := List.prefix_rfl
  made_all _ := rfl

theorem singleton (request : Request) (result : Except HostFault Frame) :
    MadeFor [request] [(request, result)] (faultOf? result) where
  unbroken := .singleton request result
  made_first := List.prefix_rfl
  made_all _ := rfl

theorem append (hexchanges : MadeFor requests exchanges none) (hmore : MadeFor later more fault?) :
    MadeFor (requests ++ later) (exchanges ++ more) fault? where
  unbroken := hexchanges.unbroken.append hmore.unbroken
  made_first := by
    rw [List.map_append, hexchanges.made_all rfl]
    exact (List.prefix_append_right_inj requests).mpr hmore.made_first
  made_all hnone := by
    rw [List.map_append, hexchanges.made_all rfl, hmore.made_all hnone]

/-- After a fault no more requests are made. -/
theorem append_of_some {fault : HostFault} (hexchanges : MadeFor requests exchanges (some fault))
    (later : List Request) : MadeFor (requests ++ later) exchanges (some fault) where
  unbroken := hexchanges.unbroken
  made_first := hexchanges.made_first.trans (List.prefix_append ..)
  made_all := nofun

/-- Something else may go wrong after all requests were answered. -/
theorem refused (hexchanges : MadeFor requests exchanges none) (fault? : Option HostFault) :
    MadeFor requests exchanges fault? where
  unbroken := .answered hexchanges.unbroken.all_answered fault?
  made_first := hexchanges.made_first
  made_all _ := hexchanges.made_all rfl

end MadeFor

/-! ## Counting writes -/

/-- A count of the reports that were written to a connection, with success or not. -/
structure CountsWrites {σ : Type} [Surroundings σ] (account : σ → List Report) : Prop where
  write : ∀ report connection,
    account (Connection.write report connection).1 = account connection ++ [report]
  read : ∀ wait connection, account (Connection.read wait connection).1 = account connection
  clock : ∀ connection, account (Connection.clock connection).1 = account connection
  pause : ∀ time connection, account (Connection.pause time connection) = account connection
  running : ∀ connection, account (Surroundings.running connection).1 = account connection
  sample : ∀ connection, account (Surroundings.sample connection).1 = account connection

theorem CountsWrites.read_eq {σ : Type} [Surroundings σ] {account : σ → List Report}
    (haccount : CountsWrites account) {wait : ℕ} {connection next : σ}
    {result : Except HostFault (Option Frame)}
    (hread : Connection.read wait connection = (next, result)) :
    account next = account connection := by
  rw [← haccount.read wait connection, hread]

/-- The report that was to be sent, with success or not. -/
def Use.attempted? : Use → Option Report
  | .wrote report _ => some report
  | _ => none

namespace Recorded

variable {σ : Type}

/-- All reports that were to be sent, in order. -/
def attempted (recorded : Recorded σ) : List Report :=
  recorded.record.filterMap fun entry => entry.1.attempted?

theorem attempted_note (use : Use) (next : σ) (recorded : Recorded σ) :
    (recorded.note use next).attempted = recorded.attempted ++ use.attempted?.toList :=
  recorded.filterMap_record_note Use.attempted? use next

variable [Surroundings σ]

instance : Surroundings (Recorded σ) where
  running recorded :=
    let (next, answer) := Surroundings.running recorded.connection
    ({ recorded with connection := next }, answer)
  sample recorded :=
    let (next, usage) := Surroundings.sample recorded.connection
    ({ recorded with connection := next }, usage)

/-- A record can tell what was written, whatever the connection is. -/
theorem countsWrites_attempted : CountsWrites fun recorded : Recorded σ => recorded.attempted where
  write _ _ := attempted_note ..
  read _ _ := (attempted_note ..).trans (List.append_nil _)
  clock _ := (attempted_note ..).trans (List.append_nil _)
  pause _ _ := (attempted_note ..).trans (List.append_nil _)
  running _ := rfl
  sample _ := rfl

end Recorded

namespace Conversation

variable {σ : Type} [Surroundings σ]

/-- What is done between two requests. -/
inductive Idle : Conversation σ → Conversation σ → Prop where
  | polled (conversation : Conversation σ) (wait : ℕ) :
      Idle conversation (conversation.nextEvent wait).1
  | paused (conversation : Conversation σ) : Idle conversation conversation.pauseAfterLine
  | sized (conversation : Conversation σ) (size : UInt8 × UInt8) :
      Idle conversation { conversation with geometry := some size }
  | clocked (conversation : Conversation σ) :
      Idle conversation
        { conversation with connection := (Connection.clock conversation.connection).1 }
  | checked (conversation : Conversation σ) :
      Idle conversation
        { conversation with connection := (Surroundings.running conversation.connection).1 }
  | sampled (conversation : Conversation σ) :
      Idle conversation
        { conversation with connection := (Surroundings.sample conversation.connection).1 }

/-- Where a conversation gets to through exchanges that are made one after the other. -/
inductive Course (start : Conversation σ) : List Exchange → Conversation σ → Prop where
  | refl : Course start [] start
  | asked {exchanges : List Exchange} {conversation : Conversation σ}
      (hbefore : Course start exchanges conversation) (request : Request) :
      Course start (exchanges ++ [(request, (conversation.request request).2)])
        (conversation.request request).1
  | idled {exchanges : List Exchange} {conversation next : Conversation σ}
      (hbefore : Course start exchanges conversation) (hidle : Idle conversation next) :
      Course start exchanges next

section

variable {start between next : Conversation σ} {exchanges more : List Exchange}

theorem Course.trans (hfirst : Course start exchanges between) (hmore : Course between more next) :
    Course start (exchanges ++ more) next := by
  induction hmore with
  | refl =>
      rw [List.append_nil]
      exact hfirst
  | asked _ request ih =>
      rw [← List.append_assoc]
      exact ih.asked request
  | idled _ hidle ih => exact ih.idled hidle

/-- An answer was read as one that reports success. -/
theorem Course.verdict_of_ok (hcourse : Course start exchanges next) {request : Request}
    {frame : Frame} (hmem : (request, .ok frame) ∈ exchanges) :
    verdict? request frame = some (.ok frame) := by
  induction hcourse with
  | refl => contradiction
  | @asked exchanges conversation _ other ih =>
      rcases List.mem_append.mp hmem with hearlier | hlast
      · exact ih hearlier
      · rw [List.mem_singleton, Prod.mk.injEq] at hlast
        rw [hlast.1]
        exact (request_eq_ok hlast.2.symm).2.1
  | idled _ _ ih => exact ih hmem

end

/-! ## The reports behind exchanges -/

section

variable {account : σ → List Report} (haccount : CountsWrites account)
include haccount

theorem Waited.account_eq {conversation next : Conversation σ}
    (hwaited : Waited conversation next) :
    account next.connection = account conversation.connection := by
  induction hwaited with
  | refl => rfl
  | tail _ hstep ih =>
      rw [← ih]
      cases hstep with
      | clocked => exact haccount.clock _
      | missed hread | heard hread => exact haccount.read_eq hread

theorem account_request (asked : Request) (conversation : Conversation σ) :
    account (conversation.request asked).1.connection =
      account conversation.connection ++ [asked.toFrame.report] := by
  have hwritten := haccount.write asked.toFrame.report conversation.connection
  rcases conversation.request_cases asked with
    ⟨next, fault, hwrite, hrequest⟩ | ⟨next, hwrite, hrequest⟩ <;>
    rw [hwrite] at hwritten <;> rw [hrequest]
  · exact hwritten
  · rw [Waited.account_eq haccount (waited_awaitResponse ..), haccount.clock]
    exact hwritten

theorem account_nextEvent (wait : ℕ) (conversation : Conversation σ) :
    account (conversation.nextEvent wait).1.connection = account conversation.connection := by
  cases hevents : conversation.events with
  | nil =>
      rw [nextEvent_of_empty _ hevents]
      exact (Waited.account_eq haccount (waited_awaitEvent ..).2).trans (haccount.clock _)
  | cons event rest => rw [nextEvent_of_queued _ hevents]

theorem Idle.account_eq {conversation next : Conversation σ} (hidle : Idle conversation next) :
    account next.connection = account conversation.connection := by
  cases hidle with
  | polled wait => exact account_nextEvent haccount wait conversation
  | paused =>
      rw [pauseAfterLine]
      split
      · rfl
      · exact haccount.pause _ _
  | sized => rfl
  | clocked => exact haccount.clock _
  | checked => exact haccount.running _
  | sampled => exact haccount.sample _

/-- Every report that is written belongs to an exchange, and they are written in order. -/
theorem Course.account_eq {start next : Conversation σ} {exchanges : List Exchange}
    (hcourse : Course start exchanges next) :
    account next.connection = account start.connection ++
      exchanges.map fun exchange => exchange.1.toFrame.report := by
  induction hcourse with
  | refl => exact (List.append_nil _).symm
  | asked _ request ih =>
      rw [account_request haccount, ih, List.map_append, List.append_assoc]
      rfl
  | idled _ hidle ih => exact (hidle.account_eq haccount).trans ih

end

/-! ## The exchanges of calls -/

/-- A conversation gets there through exchanges for the requests. -/
def Makes (conversation next : Conversation σ) (requests : List Request)
    (fault? : Option HostFault) : Prop :=
  ∃ exchanges, Course conversation exchanges next ∧ MadeFor requests exchanges fault?

section

variable {conversation between next : Conversation σ} {requests later : List Request}
  {fault? : Option HostFault}

theorem Makes.trans (hfirst : Makes conversation between requests none)
    (hmore : Makes between next later fault?) :
    Makes conversation next (requests ++ later) fault? := by
  obtain ⟨exchanges, hcourse, hexchanges⟩ := hfirst
  obtain ⟨more, honward, hunbroken⟩ := hmore
  exact ⟨exchanges ++ more, hcourse.trans honward, hexchanges.append hunbroken⟩

theorem Makes.append_of_some {fault : HostFault}
    (hmakes : Makes conversation next requests (some fault)) (later : List Request) :
    Makes conversation next (requests ++ later) (some fault) := by
  obtain ⟨exchanges, hcourse, hexchanges⟩ := hmakes
  exact ⟨exchanges, hcourse, hexchanges.append_of_some later⟩

theorem Makes.refused (hmakes : Makes conversation next requests none)
    (fault? : Option HostFault) : Makes conversation next requests fault? := by
  obtain ⟨exchanges, hcourse, hexchanges⟩ := hmakes
  exact ⟨exchanges, hcourse, hexchanges.refused fault?⟩

theorem Makes.idled (hmakes : Makes conversation between requests fault?)
    (hidle : Idle between next) : Makes conversation next requests fault? := by
  obtain ⟨exchanges, hcourse, hexchanges⟩ := hmakes
  exact ⟨exchanges, hcourse.idled hidle, hexchanges⟩

end

theorem makes_nothing (conversation : Conversation σ) (fault? : Option HostFault) :
    Makes conversation conversation [] fault? :=
  ⟨[], .refl, .nil fault?⟩

theorem makes_request (asked : Request) (conversation : Conversation σ) :
    Makes conversation (conversation.request asked).1 [asked]
      (faultOf? (conversation.request asked).2) :=
  ⟨_, .asked .refl asked, .singleton asked _⟩

theorem faultOf?_command (asked : Request) (conversation : Conversation σ) :
    faultOf? (conversation.command asked).2 = faultOf? (conversation.request asked).2 := by
  rw [command]
  rcases conversation.request asked with ⟨next, _ | _⟩ <;> rfl

theorem makes_command (asked : Request) (conversation : Conversation σ) :
    Makes conversation (conversation.command asked).1 [asked]
      (faultOf? (conversation.command asked).2) := by
  rw [command_fst, faultOf?_command]
  exact makes_request asked conversation

theorem makes_learnSize (conversation : Conversation σ) :
    Makes conversation conversation.learnSize.1 [.setUp .master]
      (faultOf? conversation.learnSize.2) := by
  have hrequest := makes_request (.setUp .master) conversation
  rw [learnSize]
  rcases hasked : conversation.request (.setUp .master) with ⟨next, fault | frame⟩ <;>
    rw [hasked] at hrequest
  · exact hrequest
  · dsimp only
    cases reportedSize frame with
    | error fault => exact hrequest.refused (some fault)
    | ok size => exact hrequest.idled (.sized next size)

theorem makes_sendLines (screen : Side) (line : ℕ) (lines : List String)
    (conversation : Conversation σ) :
    Makes conversation (conversation.sendLines screen line lines).1
      (lineRequests screen line lines)
      (faultOf? (conversation.sendLines screen line lines).2) := by
  induction lines generalizing line conversation with
  | nil => exact makes_nothing conversation none
  | cons text rest ih =>
      have hcommand :=
        makes_command (.setLine screen (UInt8.ofNat line) (Text.utf8 text)) conversation
      rw [sendLines, lineRequests_cons]
      rcases hsent : conversation.command
          (.setLine screen (UInt8.ofNat line) (Text.utf8 text)) with ⟨next, _ | _⟩ <;>
        rw [hsent] at hcommand
      · exact hcommand.append_of_some _
      · exact (hcommand.idled (.paused next)).trans (ih ..)

theorem makes_showScreen (screen : Side) (lines : List String) (conversation : Conversation σ) :
    Makes conversation (conversation.showScreen screen lines).1
      (drawRequests screen (lines.take conversation.rows))
      (faultOf? (conversation.showScreen screen lines).2) := by
  have hlines := makes_sendLines screen 0 (lines.take conversation.rows) conversation
  rw [showScreen, drawRequests]
  rcases hsent : conversation.sendLines screen 0 (lines.take conversation.rows) with
    ⟨next, _ | _⟩ <;> rw [hsent] at hlines
  · exact hlines.append_of_some _
  · exact hlines.trans (makes_command ..)

/-! ## The number of rows -/

theorem Steps.rows_eq {conversation next : Conversation σ} (hsteps : Steps conversation next) :
    next.rows = conversation.rows := by
  induction hsteps with
  | refl => rfl
  | tail _ hstep ih =>
      rw [← ih]
      cases hstep with
      | wrote | paused => rfl
      | waited hwaited => cases hwaited <;> rfl

theorem rows_nextEvent (wait : ℕ) (conversation : Conversation σ) :
    (conversation.nextEvent wait).1.rows = conversation.rows := by
  obtain ⟨next, events, hsteps, hnext⟩ := steps_nextEvent wait conversation
  rw [hnext]
  exact hsteps.rows_eq

end Conversation

end SplitPanel.Host
