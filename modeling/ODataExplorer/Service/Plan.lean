import ODataExplorer.Log.Logged
import ODataExplorer.Service.Failure

/-!
Plans: how a service comes to its answer.

A plan either has its answer or needs one fetch, of one URL, and says what it answers to whatever
comes of it. So an answer depends on the network through one fetch at most, and which one can be
read off the plan. A plan is carried out against a source, which may be the network or anything
else that answers to URLs.
-/

namespace ODataExplorer.Service

open Log

/-- An answer, or why there is none, with the log. -/
abbrev Answered (β : Type) := Logged (Except Problem β)

/-- The end of a way without an answer. Reporting the problem may be logged. -/
def Answered.failed {β : Type} (log : List Entry) (problem : Problem) : Answered β :=
  ⟨.error problem, log ++ problem.log⟩

/-- The way to an answer. -/
inductive Plan (α β : Type) where
  | answer (answered : Answered β)
  /-- The URL to fetch, the log before that, and the answer to what comes of it. -/
  | fetch (url : String) (before : List Entry) (next : Except Raised α → Answered β)

/-- What a fetch of a URL gives or raises, and logs, given the state of the source, and the state
after it. -/
abbrev Source (σ α : Type) := String → σ → Logged (Except Raised α) × σ

/-- Carries out a plan. -/
def Plan.run {σ α β : Type} (source : Source σ α) (state : σ) : Plan α β → Answered β × σ
  | .answer answered => (answered, state)
  | .fetch url before next =>
    let (fetched, state) := source url state
    (.after (before ++ fetched.log) (next fetched.value), state)

/-- What goes over the network: the replies that are to come and the requests that were sent. -/
structure Traffic where
  replies : List Fetch.Reply
  sent : List Fetch.Sent := []

/-- The traffic after a fetch. -/
def Traffic.after {α : Type} (outcome : Fetch.Outcome α) (traffic : Traffic) : Traffic :=
  ⟨outcome.rest, traffic.sent ++ outcome.sent⟩

/-- The metadata documents of the network. -/
def documents (client : Fetch.Client) : Source Traffic Text.Wording := fun url traffic =>
  let outcome := Fetch.fetchMetadata client url traffic.replies
  (⟨(outcome.result.map .text).mapError .ofFetch, outcome.log⟩, traffic.after outcome)

/-- The data of the network. -/
def data (client : Fetch.Client) : Source Traffic Payload.Decoded := fun url traffic =>
  let outcome := Fetch.fetchData client url traffic.replies
  (⟨outcome.result.mapError .ofFetch, outcome.log⟩, traffic.after outcome)

end ODataExplorer.Service
