import SwapWatch.Proofs.Node.Outcome
import SwapWatch.Proofs.Node.Refinement

/-!
# Sessions of a client

Every request takes a number, and one whose body is refused takes it along. So the number of a post is
one more than that of the posts sent and of the requests left out before it. The block at a height is
asked for when its hash could be had. Which bodies are refused is open, but plain ones never are.
-/

set_option autoImplicit false

namespace SwapWatch

/-! ## Networks -/

/-- What a client meets. The replies are given in advance, each by the number of posts before its
own. -/
structure Network where
  endpoint : Endpoint
  refusal? : Json → Option Json.Refusal
  replies : Nat → Reply

/-- A client whose posts are kept in the order in which they are sent. -/
def Network.client (network : Network) : Client (StateM (List Post)) where
  endpoint := network.endpoint
  refusal? := network.refusal?
  send post := do
    let sent ← get
    set (sent ++ [post])
    return network.replies sent.length

/-! ## Requests -/

/-- The post calls a method with these arguments under a number. -/
structure Post.Asks (post : Post) (endpoint : Endpoint) (number : Nat) (method : String)
    (arguments : List Json) : Prop where
  url : post.url = endpoint.url
  authorization : post.authorization = endpoint.authorization
  body : post.body = .record [("jsonrpc", .text "1.0"), ("id", .int number),
    ("method", .text method), ("params", .list arguments)]

theorem Endpoint.asks_post (endpoint : Endpoint) (number : Nat) (request : Request) :
    (endpoint.post number request).Asks endpoint number request.method request.arguments :=
  ⟨rfl, rfl, rfl⟩

theorem Post.Asks.id {post : Post} {endpoint : Endpoint} {number : Nat} {method : String}
    {arguments : List Json} (asks : post.Asks endpoint number method arguments) :
    post.body.field? "id" = some (.int number) := by
  rw [asks.body]
  rfl

/-- What a request gives and the posts that are sent for it, when so many posts were sent and so many
requests left out before it. It may be left out when its number or an argument cannot be written. -/
inductive Network.Asked (network : Network) (sent skipped : Nat) (method : String)
    (arguments : List Json) : Except Fault Json → List Post → Prop where
  | sent {post : Post} :
      post.Asks network.endpoint (sent + skipped + 1) method arguments →
      network.refusal? post.body = none →
      network.Asked sent skipped method arguments (network.replies sent).result [post]
  | unsent {post : Post} {refusal : Json.Refusal} :
      post.Asks network.endpoint (sent + skipped + 1) method arguments →
      network.refusal? post.body = some refusal →
      ¬ (Json.isShort (sent + skipped + 1 : Nat) = true ∧ ∀ argument ∈ arguments, argument.Writable) →
      network.Asked sent skipped method arguments (.error (.unwritten refusal)) []

namespace Network

variable {network : Network} {sent skipped : Nat} {request : Request} {method : String}
  {arguments : List Json} {outcome : Except Fault Json} {posts : List Post}

theorem Asked.counted (asked : network.Asked sent skipped method arguments outcome posts) :
    posts.length + (leftOut outcome).toNat = 1 := by
  cases asked with
  | sent asks written =>
    rw [Reply.leftOut_result]
    rfl
  | unsent asks refused unwritable => rfl

theorem Asked.numbered (asked : network.Asked sent skipped method arguments outcome posts)
    {offset : Nat} {post : Post} (found : posts[offset]? = some post) :
    post.body.field? "id" = some (.int (sent + offset + 1 + skipped : Nat)) := by
  cases asked with
  | sent asks written =>
    cases offset with
    | zero =>
      cases found
      rw [asks.id, Nat.add_right_comm]
    | succ offset => cases found
  | unsent asks refused unwritable => cases found

theorem call_of_written {number : Nat}
    (written : network.refusal? (network.endpoint.post (number + 1) request).body = none)
    (posts : List Post) :
    network.client.call request number posts =
      (((network.replies posts.length).result, number + 1),
        posts ++ [network.endpoint.post (number + 1) request]) :=
  Client.call_of_written written posts

theorem call_asked (writes : network.client.Writes fun number => Json.isShort number = true)
    (posts : List Post) (skipped : Nat) (request : Request) :
    ∃ outcome new,
      network.Asked posts.length skipped request.method request.arguments outcome new ∧
      network.client.call request (posts.length + skipped) posts =
        ((outcome, posts.length + skipped + 1), posts ++ new) := by
  have asks := network.endpoint.asks_post (posts.length + skipped + 1) request
  cases refused : network.refusal? (network.endpoint.post (posts.length + skipped + 1) request).body with
  | none => exact ⟨_, _, .sent asks refused, call_of_written refused posts⟩
  | some refusal =>
    refine ⟨_, _, .unsent asks refused ?_, ?_⟩
    · intro ⟨numbered, writable⟩
      have written := writes _ (network.endpoint.plain_post _ numbered writable)
      cases refused.symm.trans written
    · rw [Client.call_of_refused refused, List.append_nil]

end Network

/-! ## Exchanges -/

inductive ClientCall where
  | ask (request : Request)
  | blockAt (height : Int)

namespace Client

variable {m : Type → Type} [Monad m]

def request (client : Client m) : Request → StateT Nat m (Except Fault Json)
  | .blockCount => client.blockCount
  | .blockHash height => client.blockHash height
  | .rawBlock hash => client.rawBlock hash

def answer (client : Client m) : ClientCall → StateT Nat m (Except Fault NodeAnswer)
  | .ask request => do return (← client.request request).map .value
  | .blockAt height => do return (← client.blockAt height).map .block

theorem request_eq_call (client : Client m) (request : Request) :
    client.request request = client.call request := by
  cases request <;> rfl

end Client

structure Exchange where
  call : ClientCall
  answer : Except Fault NodeAnswer
  posts : List Post

namespace Exchange

def unsent (exchange : Exchange) : Bool :=
  leftOut exchange.answer

/-- What a call sends and gives, when so many posts were sent and so many requests left out before
it. -/
inductive Follows (network : Network) (sent skipped : Nat) : Exchange → Prop where
  | blockCount {outcome : Except Fault Json} {posts : List Post} :
      network.Asked sent skipped "getblockcount" [] outcome posts →
      Follows network sent skipped ⟨.ask .blockCount, outcome.map .value, posts⟩
  | blockHash {height : Int} {outcome : Except Fault Json} {posts : List Post} :
      network.Asked sent skipped "getblockhash" [.int height] outcome posts →
      Follows network sent skipped ⟨.ask (.blockHash height), outcome.map .value, posts⟩
  | rawBlock {hash : Json} {outcome : Except Fault Json} {posts : List Post} :
      network.Asked sent skipped "getblock" [hash, .int 0] outcome posts →
      Follows network sent skipped ⟨.ask (.rawBlock hash), outcome.map .value, posts⟩
  | blockAt_lost {height : Int} {fault : Fault} {posts : List Post} :
      network.Asked sent skipped "getblockhash" [.int height] (.error fault) posts →
      Follows network sent skipped ⟨.blockAt height, .error fault, posts⟩
  | blockAt {height : Int} {hash : Json} {outcome : Except Fault Json} {first second : List Post} :
      network.Asked sent skipped "getblockhash" [.int height] (.ok hash) first →
      network.Asked (sent + 1) skipped "getblock" [hash, .int 0] outcome second →
      Follows network sent skipped
        ⟨.blockAt height, (outcome.bind (Client.decodeBlock height)).map .block, first ++ second⟩

end Exchange

/-- A call with its posts, which are those sent after all before. -/
def Client.exchange (client : Client (StateM (List Post))) (call : ClientCall) :
    StateT Nat (StateM (List Post)) Exchange := fun number before => do
  let ((answer, number), posts) := client.answer call number before
  return ((⟨call, answer, posts.drop before.length⟩, number), posts)

def Exchange.Next (exchange : Exchange) (network : Network) (posts : List Post) (skipped : Nat) :
    Prop :=
  network.client.exchange exchange.call (posts.length + skipped) posts =
    ((exchange, (posts ++ exchange.posts).length + (skipped + exchange.unsent.toNat)),
      posts ++ exchange.posts)

namespace Network

variable {network : Network} {posts : List Post} {skipped : Nat}

theorem exchange_of_answer {call : ClientCall} {answer : Except Fault NodeAnswer}
    {number last : Nat} (posts new : List Post)
    (run : network.client.answer call number posts = ((answer, last), posts ++ new)) :
    network.client.exchange call number posts = ((⟨call, answer, new⟩, last), posts ++ new) := by
  rw [Client.exchange, run]
  change ((Exchange.mk call answer ((posts ++ new).drop posts.length), last), _) = _
  rw [List.drop_left]

theorem next_of_answer {call : ClientCall} {answer : Except Fault NodeAnswer} {new : List Post}
    {last : Nat} (counted : last = posts.length + new.length + skipped + (leftOut answer).toNat)
    (run : network.client.answer call (posts.length + skipped) posts =
      ((answer, last), posts ++ new)) : (Exchange.mk call answer new).Next network posts skipped := by
  rw [Exchange.Next, exchange_of_answer posts new run, List.length_append, ← Nat.add_assoc, counted]
  rfl

section Runs

variable {number last : Nat} {before later : List Post}

theorem answer_ask {request : Request} {outcome : Except Fault Json}
    (run : network.client.call request number before = ((outcome, last), later)) :
    network.client.answer (.ask request) number before = ((outcome.map .value, last), later) := by
  rw [← Client.request_eq_call] at run
  simp only [Client.answer, bind, StateT.bind, run]
  rfl

theorem answer_blockAt {height : Int} {outcome : Except Fault Block}
    (run : network.client.blockAt height number before = ((outcome, last), later)) :
    network.client.answer (.blockAt height) number before = ((outcome.map .block, last), later) := by
  simp only [Client.answer, bind, StateT.bind, run]
  rfl

end Runs

variable (writes : network.client.Writes fun number => Json.isShort number = true)
include writes

theorem blockAt_next (height : Int) :
    ∃ exchange : Exchange, exchange.call = .blockAt height ∧
      exchange.Follows network posts.length skipped ∧ exchange.Next network posts skipped := by
  obtain ⟨found, first, asked, firstRun⟩ := call_asked writes posts skipped (.blockHash height)
  have counted := asked.counted
  cases found with
  | error fault =>
    refine ⟨_, rfl, .blockAt_lost asked, next_of_answer ?_
      (answer_blockAt (Client.blockAt_of_lost firstRun))⟩
    have unsent : leftOut (.error fault : Except Fault NodeAnswer) =
        leftOut (.error fault : Except Fault Json) := leftOut_map (.error fault) NodeAnswer.value
    rw [unsent]
    omega
  | ok hash =>
    change first.length + 0 = 1 at counted
    obtain ⟨outcome, second, further, secondRun⟩ :=
      call_asked writes (posts ++ first) skipped (.rawBlock hash)
    have sent : (posts ++ first).length = posts.length + 1 := by
      rw [List.length_append]
      omega
    have number : posts.length + 1 + skipped = posts.length + skipped + 1 := by omega
    rw [sent] at further secondRun
    rw [number] at secondRun
    have counted := further.counted
    have run := answer_blockAt (Client.blockAt_of_found firstRun secondRun)
    rw [List.append_assoc] at run
    refine ⟨_, rfl, .blockAt asked further, next_of_answer ?_ run⟩
    rw [leftOut_map, leftOut_decodeBlock, List.length_append]
    omega

theorem exchange_next (call : ClientCall) :
    ∃ exchange : Exchange, exchange.call = call ∧
      exchange.Follows network posts.length skipped ∧ exchange.Next network posts skipped := by
  cases call with
  | ask request =>
    obtain ⟨outcome, new, asked, run⟩ := call_asked writes posts skipped request
    have counted := asked.counted
    have next : (Exchange.mk (.ask request) (outcome.map .value) new).Next network posts skipped := by
      refine next_of_answer ?_ (answer_ask run)
      rw [leftOut_map]
      omega
    cases request with
    | blockCount => exact ⟨_, rfl, .blockCount asked, next⟩
    | blockHash height => exact ⟨_, rfl, .blockHash asked, next⟩
    | rawBlock hash => exact ⟨_, rfl, .rawBlock asked, next⟩
  | blockAt height => exact blockAt_next writes height

omit writes in
theorem mapM_exchange_cons {call : ClientCall} {first : Exchange} {number last : Nat}
    {before later : List Post}
    (run : network.client.exchange call number before = ((first, last), later))
    (calls : List ClientCall) :
    ((call :: calls).mapM network.client.exchange number before).1.1 =
      first :: (calls.mapM network.client.exchange last later).1.1 := by
  rw [List.mapM_cons]
  change (network.client.exchange call number before).1.1 ::
    (calls.mapM network.client.exchange (network.client.exchange call number before).1.2
      (network.client.exchange call number before).2).1.1 = _
  rw [run]

omit writes in
theorem countP_unsent_cons (first : Exchange) (before : List Exchange) :
    (first :: before).countP (·.unsent) = first.unsent.toNat + before.countP (·.unsent) := by
  cases unsent : first.unsent with
  | false => simp [unsent]
  | true => simp [unsent, Nat.add_comm]

theorem mapM_exchange (calls : List ClientCall) (posts : List Post) (skipped : Nat) :
    let log := (calls.mapM network.client.exchange (posts.length + skipped) posts).1.1
    log.map (·.call) = calls ∧
      ∀ before exchange behind, log = before ++ exchange :: behind →
        exchange.Follows network (posts ++ before.flatMap (·.posts)).length
          (skipped + before.countP (·.unsent)) := by
  -- The number stays the sum of the posts and the left out requests, so both are carried along.
  induction calls generalizing posts skipped with
  | nil =>
    refine ⟨rfl, ?_⟩
    intro before exchange behind split
    cases before <;> cases split
  | cons call calls ih =>
    obtain ⟨first, rfl, follows, next⟩ := @exchange_next network posts skipped writes call
    obtain ⟨called, later⟩ := ih (posts ++ first.posts) (skipped + first.unsent.toNat)
    rw [mapM_exchange_cons next]
    refine ⟨congrArg (first.call :: ·) called, ?_⟩
    intro before exchange behind split
    cases before with
    | nil =>
      obtain ⟨rfl, -⟩ := List.cons.inj split
      simpa using follows
    | cons head before =>
      obtain ⟨rfl, rest⟩ := List.cons.inj split
      have further := later before exchange behind rest
      rwa [List.append_assoc, ← List.flatMap_cons, Nat.add_assoc, ← countP_unsent_cons] at further

end Network

/-! ## Sessions -/

theorem exists_exchange_of_getElem? {log : List Exchange} {place : Nat} {post : Post}
    (found : (log.flatMap (·.posts))[place]? = some post) :
    ∃ before exchange behind offset, log = before ++ exchange :: behind ∧
      exchange.posts[offset]? = some post ∧
      place = (before.flatMap (·.posts)).length + offset := by
  induction log generalizing place with
  | nil => cases found
  | cons first log ih =>
    rw [List.flatMap_cons] at found
    by_cases own : place < first.posts.length
    · rw [List.getElem?_append_left own] at found
      exact ⟨[], first, log, place, rfl, found, (Nat.zero_add place).symm⟩
    · rw [List.getElem?_append_right (Nat.le_of_not_lt own)] at found
      obtain ⟨before, exchange, behind, offset, split, inside, counted⟩ := ih found
      refine ⟨first :: before, exchange, behind, offset, congrArg (first :: ·) split, inside, ?_⟩
      rw [List.flatMap_cons, List.length_append]
      omega

theorem Exchange.Follows.numbered {network : Network} {sent skipped offset : Nat}
    {exchange : Exchange} {post : Post} (follows : exchange.Follows network sent skipped)
    (found : exchange.posts[offset]? = some post) :
    post.body.field? "id" = some (.int (sent + offset + 1 + skipped : Nat)) := by
  cases follows with
  | blockCount asked | blockHash asked | rawBlock asked | blockAt_lost asked =>
    exact asked.numbered found
  | @blockAt height hash outcome first second asked further =>
    have counted : first.length + 0 = 1 := asked.counted
    by_cases own : offset < first.length
    · rw [List.getElem?_append_left own] at found
      exact asked.numbered found
    · rw [List.getElem?_append_right (Nat.le_of_not_lt own)] at found
      have place : sent + 1 + (offset - first.length) = sent + offset := by omega
      rw [further.numbered found, place]

def Network.session (network : Network) (calls : List ClientCall) : List Exchange :=
  (calls.mapM network.client.exchange 0 []).1.1

/-- Every call of a session sends what is asked of it and gives what the replies yield. A post has the
number of the posts up to it, and one more for each call before it with a request that could not be
written. -/
theorem session_follows_protocol (network : Network)
    (writes : network.client.Writes fun number => Json.isShort number = true)
    (calls : List ClientCall) :
    let log := network.session calls
    log.map (·.call) = calls ∧
    (∀ before exchange behind, log = before ++ exchange :: behind →
      exchange.Follows network (before.flatMap (·.posts)).length (before.countP (·.unsent))) ∧
    (∀ place post, (log.flatMap (·.posts))[place]? = some post →
      ∃ before exchange behind, log = before ++ exchange :: behind ∧ post ∈ exchange.posts ∧
        post.body.field? "id" = some (.int (place + 1 + before.countP (·.unsent) : Nat))) ∧
    ∀ (reply : Reply) (outcome : Except Fault Json), reply.result = outcome ↔ reply.Yields outcome := by
  intro log
  obtain ⟨called, follows⟩ := network.mapM_exchange writes calls [] 0
  have each : ∀ before exchange behind, log = before ++ exchange :: behind →
      exchange.Follows network (before.flatMap (·.posts)).length (before.countP (·.unsent)) := by
    intro before exchange behind split
    have found := follows before exchange behind split
    rwa [List.nil_append, Nat.zero_add] at found
  refine ⟨called, each, ?_, fun reply outcome => Reply.result_eq_iff_yields⟩
  intro place post found
  obtain ⟨before, exchange, behind, offset, split, inside, rfl⟩ := exists_exchange_of_getElem? found
  refine ⟨before, exchange, behind, split, List.mem_of_getElem? inside, ?_⟩
  exact (each before exchange behind split).numbered inside

theorem session_follows_protocol_strict :
    let network : Network := ⟨{}, Json.refusal?, fun _ => ⟨404, []⟩⟩
    let log := network.session [.ask .blockCount, .blockAt 7, .ask (.rawBlock (.text "ab"))]
    (network.client.Writes fun number => Json.isShort number = true) ∧
    (∀ before exchange behind, log = before ++ exchange :: behind →
      exchange.Follows network (before.flatMap (·.posts)).length (before.countP (·.unsent))) ∧
    log.map (·.posts.map (·.body.field? "id")) = [[some (.int 1)], [some (.int 2)], [some (.int 3)]] := by
  intro network log
  have writes : network.client.Writes fun number => Json.isShort number = true :=
    fun body writable => Json.refusal?_of_writable writable
  obtain ⟨-, follows, -⟩ := session_follows_protocol network writes
    [.ask .blockCount, .blockAt 7, .ask (.rawBlock (.text "ab"))]
  exact ⟨writes, follows, rfl⟩

/-- A node gives half of a surrogate pair as a hash, so the second request of the first call is refused
and left out with its number, although the first one was answered. Neither bytes of no text nor a
number with too many digits are reported as bad JSON. -/
theorem session_leaves_number_out :
    let reply : Reply := ⟨200, Text.Utf8.encode "\x7b\"result\": \"\\ud800\"\x7d".toList⟩
    let network : Network := ⟨{}, Json.refusal?, fun _ => reply⟩
    let log := network.session [.blockAt 1, .ask .blockCount]
    (∃ hash, reply.result = .ok hash) ∧
    log.map (·.posts.map (·.body.field? "method")) =
      [[some (.text "getblockhash")], [some (.text "getblockcount")]] ∧
    log.map (·.posts.map (·.body.field? "id")) = [[some (.int 1)], [some (.int 3)]] ∧
    Reply.result ⟨200, [0x00, 0x61, 0x62, 0x63, 0x64]⟩ =
      .error (.notText ⟨.utf16 true, 4, [0x64], .truncated⟩) ∧
    Reply.result ⟨200, Text.Utf8.encode (List.replicate 4301 '1')⟩ = .error (.oversized 4301) := by
  intro reply network log
  have decoded : Text.Encoding.decode reply.body = .ok "\x7b\"result\": \"\\ud800\"\x7d" :=
    Text.Encoding.decode_encode (by decide) rfl
  have given : reply.result = .ok (.text [.ofUnit 0xd800]) :=
    Reply.Records.result ⟨_, ⟨.of_success rfl, decoded⟩, Json.ofPoints_half⟩
  obtain ⟨refusal, refused⟩ : ∃ refusal, Json.refusal?
      (Endpoint.post {} 2 (.rawBlock (.text [.ofUnit 0xd800]))).body = some refusal := ⟨_, rfl⟩
  clear_value reply
  have hashed := @Network.call_of_written network (.blockHash 1) 0 rfl []
  change _ = ((reply.result, _), _) at hashed
  rw [given] at hashed
  have unsent := @Client.call_of_refused _ network.client _ 1 _ refused [Endpoint.post {} 1 (.blockHash 1)]
  have counted := @Network.call_of_written network .blockCount 2 rfl
    [Endpoint.post {} 1 (.blockHash 1)]
  have first : network.client.answer (.blockAt 1) 0 [] =
      ((.error (.unwritten refusal), 2), [Endpoint.post {} 1 (.blockHash 1)]) :=
    Network.answer_blockAt (Client.blockAt_of_found hashed unsent)
  have second : network.client.answer (.ask .blockCount) 2 [Endpoint.post {} 1 (.blockHash 1)] =
      ((reply.result.map .value, 3),
        [Endpoint.post {} 1 (.blockHash 1), Endpoint.post {} 3 .blockCount]) :=
    Network.answer_ask counted
  have split : log = [⟨.blockAt 1, .error (.unwritten refusal), [Endpoint.post {} 1 (.blockHash 1)]⟩,
      ⟨.ask .blockCount, reply.result.map .value, [Endpoint.post {} 3 .blockCount]⟩] := by
    have firstRun := Network.exchange_of_answer [] [Endpoint.post {} 1 (.blockHash 1)] first
    have secondRun := Network.exchange_of_answer [Endpoint.post {} 1 (.blockHash 1)]
      [Endpoint.post {} 3 .blockCount] second
    change (List.mapM network.client.exchange _ 0 []).1.1 = _
    rw [Network.mapM_exchange_cons firstRun, List.nil_append, Network.mapM_exchange_cons secondRun,
      List.mapM_nil]
    rfl
  refine ⟨⟨_, given⟩, ?_, ?_, rfl, ?_⟩
  · rw [split]
    rfl
  · rw [split]
    rfl
  · have ones : ∀ char ∈ '1' :: List.replicate 4300 '1', char = '1' := by
      rw [← List.replicate_succ]
      exact fun char => List.eq_of_mem_replicate
    have flawed := Reply.result_of_digits (fun char member => ones char member ▸ by decide)
      (by decide) (by rw [List.length_cons, List.length_replicate]; decide)
    rwa [List.length_cons, List.length_replicate, ← List.replicate_succ] at flawed

end SwapWatch
