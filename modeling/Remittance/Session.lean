import Remittance.Service

namespace Remittance

structure Session where
  snapshot : Snapshot
  today : Date
  last : Option Result := none
  metrics : Metrics := {}
deriving Repr, DecidableEq

inductive Step
  | process (instruction : Text)
  | apply
  | record
  | recordRaw (status code : String) (amount : Option Int) (currency : Option String)
  | setToday (today : Date)
  | add (account : Account)
  | drop (id : Text)
  | request (request : Request)
deriving Repr, DecidableEq

inductive StepValue
  | nothing
  | result (result : Result)
  | fault (fault : Fault)
  | answer (answer : Answer)
deriving Repr, BEq

structure Turn where
  value : StepValue := .nothing
  events : List Event := []
  session : Session
deriving Repr, BEq

/-- Each record takes the balance of the last view with its id. -/
def Snapshot.apply (snapshot : Snapshot) (views : List View) : Snapshot :=
  snapshot.map fun account =>
    match views.reverse.find? (·.id == account.id) with
    | some view => { account with balance := view.balance }
    | none => account

namespace Session

def recorded (session : Session) (outcome : Metrics × Option Fault) : Turn :=
  { session := { session with metrics := outcome.1 }
    value := match outcome.2 with
      | some fault => .fault fault
      | none => .nothing }

def step (settings : Settings) (session : Session) : Step → Turn
  | .process instruction =>
      let (result, fault) := Remittance.process session.snapshot instruction session.today
      { value := .result result
        events := fault.toList.map .unexpected
        session := { session with last := some result } }
  | .apply =>
      match session.last with
      | some result =>
          { session := { session with snapshot := session.snapshot.apply result.views } }
      | none => { session }
  | .record =>
      match session.last with
      | some result => session.recorded (session.metrics.recordResult result)
      | none => { session }
  | .recordRaw status code amount currency =>
      session.recorded (session.metrics.record status code amount currency)
  | .setToday today => { session := { session with today } }
  | .add account => { session := { session with snapshot := session.snapshot ++ [account] } }
  | .drop id =>
      { session := { session with snapshot := session.snapshot.filter (·.id != id) } }
  | .request request =>
      let (answer, metrics) := Service.handle settings session.today session.metrics request
      { value := .answer answer, session := { session with metrics } }

def run (settings : Settings) (session : Session) : List Step → List Turn
  | [] => []
  | first :: steps =>
      let turn := session.step settings first
      turn :: run settings turn.session steps

end Session

end Remittance
