import NeighborBench.Proofs.Json.Amount
import NeighborBench.Proofs.Json.Printed
import NeighborBench.Proofs.Json.Record
import NeighborBench.Proofs.Search.Endpoint
import NeighborBench.Proofs.Text.Utf8

/-! # Which answers are accepted

An answer counts if its status is one of success and its body is a JSON text of a record with a number
and hits, each with an id. Then the reply has that number and those ids, and nothing else does.
-/

namespace NeighborBench

open Json (Tree)

namespace SearchReply

/-! ## Trees of answers -/

inductive Hit : Tree → String → Prop where
  | mk {tree : Tree} {id : String} (record : tree.IsRecord ["_id"])
      (has : tree.HasField ["_id"] "_id" (.string (some id))) : Hit tree id

/-- The list of hits may be absent, and then there are none. -/
inductive Hits : Tree → List String → Prop where
  | listed {tree : Tree} {items : List Tree} {ids : List String} (record : tree.IsRecord ["hits"])
      (has : tree.HasField ["hits"] "hits" (.array items)) (each : List.Forall₂ Hit items ids) :
      Hits tree ids
  | absent {tree : Tree} (record : tree.IsRecord ["hits"])
      (lacks : ∀ value, ¬tree.HasField ["hits"] "hits" value) : Hits tree []

/-- The time is a number, and it is not too large. -/
inductive Answers : Tree → SearchReply → Prop where
  | mk {tree hits : Tree} {n : Json.Numeral} {took : Float} {ids : List String}
      (record : tree.IsRecord ["took", "hits"])
      (hasTook : tree.HasField ["took", "hits"] "took" (.number n)) (means : n.Means took)
      (hasHits : tree.HasField ["took", "hits"] "hits" hits) (found : Hits hits ids) :
      Answers tree ⟨took, ids⟩

/-- What the glyphs of a body must be for a reply. -/
def Accepts (bytes : List UInt8) (reply : SearchReply) : Prop :=
  ∃ (glyphs : List (Option Char)) (tree : Tree),
    Text.Shows bytes glyphs ∧ tree.Writes glyphs ∧ Answers tree reply

/-! ## Reading them -/

theorem asText?_eq_some_iff (tree : Tree) (s : String) :
    tree.asText? = some s ↔ tree = .string (some s) := by
  cases tree <;> simp [Tree.asText?]

theorem asFloat?_eq_some_iff (tree : Tree) (x : Float) :
    tree.asFloat? = some x ↔ ∃ n, tree = .number n ∧ n.asFloat? = some x := by
  cases tree <;> simp [Tree.asFloat?]

theorem idOf?_eq_some_iff (tree : Tree) (id : String) : idOf? tree = some id ↔ Hit tree id := by
  constructor
  · intro h
    obtain ⟨found, hfound, h⟩ := Option.bind_eq_some_iff.mp h
    obtain ⟨record, value?, rfl, hid⟩ := Tree.record?_one_sound hfound
    cases value? with
    | none => cases h
    | some value =>
      rw [(asText?_eq_some_iff value id).mp h] at hid
      exact .mk record ((hid _).mp rfl)
  · rintro ⟨record, has⟩
    obtain ⟨value?, hfound, hid⟩ := record.read_one
    rw [idOf?, hfound, (hid _).mpr has]
    rfl

theorem mapM_idOf?_eq_some_iff (items : List Tree) (ids : List String) :
    items.mapM idOf? = some ids ↔ List.Forall₂ Hit items ids := by
  rw [mapM_eq_some_iff]
  simp only [idOf?_eq_some_iff]

theorem hitsOf?_eq_some_iff (tree : Tree) (ids : List String) :
    hitsOf? tree = some ids ↔ Hits tree ids := by
  constructor
  · intro h
    obtain ⟨found, hfound, h⟩ := Option.bind_eq_some_iff.mp h
    obtain ⟨record, value?, rfl, hhits⟩ := Tree.record?_one_sound hfound
    rcases value? with _ | (_ | _ | _ | _ | items | _)
    case none =>
      -- Without the field there are no hits; with another value in it there is no reply.
      cases h
      exact .absent record fun value has => by cases (hhits value).mpr has
    case some.array => exact .listed record ((hhits _).mp rfl) ((mapM_idOf?_eq_some_iff _ _).mp h)
    all_goals cases h
  · rintro (⟨record, has, each⟩ | ⟨record, lacks⟩)
    · obtain ⟨value?, hfound, hhits⟩ := record.read_one
      rw [hitsOf?, hfound, (hhits _).mpr has]
      exact (mapM_idOf?_eq_some_iff _ _).mpr each
    · obtain ⟨value?, hfound, hhits⟩ := record.read_one
      cases value? with
      | none =>
        rw [hitsOf?, hfound]
        rfl
      | some value => exact absurd ((hhits value).mp rfl) (lacks value)

theorem ofTree?_eq_some_iff (tree : Tree) (reply : SearchReply) :
    ofTree? tree = some reply ↔ Answers tree reply := by
  constructor
  · intro h
    obtain ⟨found, hfound, h⟩ := Option.bind_eq_some_iff.mp h
    obtain ⟨record, fills⟩ := Tree.record?_sound (by simp) hfound
    -- Both fields have to be there, and each has to be what it should.
    obtain _ | @⟨_, took?, _, _, htook, _ | @⟨_, hits?, _, _, hhits, _ | _⟩⟩ := fills
    cases took? with
    | none => cases h
    | some took =>
      cases hits? with
      | none => cases h
      | some hits =>
        obtain ⟨x, hx, h⟩ := Option.bind_eq_some_iff.mp h
        obtain ⟨ids, hids, h⟩ := Option.bind_eq_some_iff.mp h
        cases h
        obtain ⟨n, rfl, hn⟩ := (asFloat?_eq_some_iff took x).mp hx
        exact .mk record ((htook _).mp rfl) ((n.asFloat?_eq_some_iff x).mp hn) ((hhits _).mp rfl)
          ((hitsOf?_eq_some_iff _ _).mp hids)
  · rintro @⟨_, n, took, _, record, hasTook, means, hasHits, found⟩
    obtain ⟨read, hread⟩ := record.read
    obtain ⟨-, fills⟩ := Tree.record?_sound (by simp) hread
    obtain _ | ⟨htook, _ | ⟨hhits, _ | _⟩⟩ := fills
    rw [(htook _).mpr hasTook, (hhits _).mpr hasHits] at hread
    rw [ofTree?, hread]
    simp only [bind, Option.bind, Tree.asFloat?, (n.asFloat?_eq_some_iff took).mpr means,
      (hitsOf?_eq_some_iff _ _).mpr found]

theorem ofBytes?_eq_some_iff (bytes : List UInt8) (reply : SearchReply) :
    ofBytes? bytes = some reply ↔ Accepts bytes reply := by
  have hglyphs : ofBytes? bytes = some reply ↔
      ∃ tree : Tree, tree.Writes (Text.decode bytes) ∧ Answers tree reply := by
    rw [ofBytes?, Option.bind_eq_some_iff]
    simp only [Tree.ofBytes?, Tree.ofGlyphs?_eq_some_iff, ofTree?_eq_some_iff]
  rw [hglyphs]
  constructor
  · rintro ⟨tree, writes, answers⟩
    exact ⟨_, tree, Text.shows_decode bytes, writes, answers⟩
  · rintro ⟨glyphs, tree, shows, writes, answers⟩
    obtain rfl := (Text.decode_eq_iff bytes glyphs).mpr shows
    exact ⟨tree, writes, answers⟩

/-! ## Answers -/

def IsSuccess (status : Nat) : Prop := 200 ≤ status ∧ status < 300

instance (status : Nat) : Decidable (IsSuccess status) := inferInstanceAs (Decidable (_ ∧ _))

theorem isSuccess_iff (status : Nat) : isSuccess status = true ↔ IsSuccess status := by
  simp [isSuccess, IsSuccess]

/-- The text of a body, with a mark wherever no character stands. -/
def Reads (bytes : List UInt8) (text : String) : Prop :=
  ∃ glyphs, Text.Shows bytes glyphs ∧ text = String.ofList (glyphs.map (·.getD '\uFFFD'))

theorem reads_iff (bytes : List UInt8) (text : String) :
    Reads bytes text ↔ text = Text.utf8Lossy bytes := by
  constructor
  · rintro ⟨glyphs, shows, rfl⟩
    rw [← (Text.decode_eq_iff bytes glyphs).mpr shows, Text.utf8Lossy]
  · rintro rfl
    exact ⟨_, Text.shows_decode bytes, rfl⟩

/-- What becomes of an answer that came whole. -/
structure Decoded (status : Nat) (bytes : List UInt8) (found : Except ClientError SearchReply) :
    Prop where
  refused : ∀ code text, found = .error (.status code text) ↔
    ¬IsSuccess status ∧ code = status ∧ Reads bytes text
  accepted : ∀ reply, found = .ok reply ↔ IsSuccess status ∧ Accepts bytes reply
  malformed : (∃ detail, found = .error (.decode detail)) ↔
    IsSuccess status ∧ ∀ reply, ¬Accepts bytes reply

theorem ofHttp_decoded (status : Nat) (bytes : List UInt8) :
    Decoded status bytes (ofHttp ⟨status, .ok bytes⟩) := by
  have haccepted := ofBytes?_eq_some_iff bytes
  cases hsuccess : isSuccess status with
  | false =>
    have hstatus : ¬IsSuccess status := by simp [← isSuccess_iff, hsuccess]
    have hfound : ofHttp ⟨status, .ok bytes⟩ = .error (.status status (Text.utf8Lossy bytes)) := by
      simp [ofHttp, hsuccess, Except.toOption]
    rw [hfound]
    exact ⟨by simp [hstatus, reads_iff, eq_comm], by simp [hstatus], by simp [hstatus]⟩
  | true =>
    have hstatus : IsSuccess status := (isSuccess_iff status).mp hsuccess
    cases hbody : ofBytes? bytes with
    | none =>
      have hfound : ofHttp ⟨status, .ok bytes⟩ = .error (.decode "error decoding response body") := by
        simp [ofHttp, hsuccess, hbody]
      rw [hfound]
      refine ⟨by simp [hstatus], ?_, ?_⟩
      · simp [hstatus, ← haccepted, hbody]
      · simp [hstatus, ← haccepted, hbody]
    | some reply =>
      have hfound : ofHttp ⟨status, .ok bytes⟩ = .ok reply := by simp [ofHttp, hsuccess, hbody]
      rw [hfound]
      refine ⟨by simp [hstatus], ?_, ?_⟩
      · simp [hstatus, ← haccepted, hbody]
      · simp [hstatus, ← haccepted, hbody]

theorem ofHttp_ne_ok (status : Nat) (fault : BodyFault) (reply : SearchReply) :
    ofHttp ⟨status, .error fault⟩ ≠ .ok reply := by
  unfold ofHttp
  cases isSuccess status with
  | false => nofun
  | true => cases fault <;> nofun

end SearchReply

/-! ## Main statement -/

/-- A search gives what its answer stands for: each answer that came whole is refused with its status
and text, accepted with the ids of its hits in their order, or malformed. Without a whole answer
there is no reply. -/
theorem search_decodes_answers {ω : Type} (transport : Transport (StateM ω)) (c : Connection)
    (r : SearchRequest) (before : ω) :
    match c.httpRequest? r with
    | none => c.search transport r before = (.error (.http "builder error"), before)
    | some request =>
      let (answer, after) := transport c.timeout request before
      ∃ found, c.search transport r before = (found, after) ∧
        match answer with
        | .ok ⟨status, .ok bytes⟩ => SearchReply.Decoded status bytes found
        | _ => ∀ reply, found ≠ .ok reply := by
  unfold Connection.search
  cases c.httpRequest? r with
  | none => rfl
  | some request =>
    simp only [state_bind]
    rcases transport c.timeout request before with ⟨answer, after⟩
    rcases answer with fault | ⟨status, fault | bytes⟩
    · exact ⟨_, rfl, by simp⟩
    · exact ⟨_, rfl, SearchReply.ofHttp_ne_ok status fault⟩
    · exact ⟨_, rfl, SearchReply.ofHttp_decoded status bytes⟩

/-! ## A server's answers -/

namespace SearchReply

/-- A server that answers every request alike. -/
def answering (status : Nat) (bytes : List UInt8) : Transport (StateM Unit) :=
  fun _ _ => pure (.ok ⟨status, .ok bytes⟩)

def hit (id : String) : Json := .object [("_id", .string id)]

def twoHits : Json := .object [("total", .int 2), ("hits", .array [hit "7", hit "3"])]

theorem hit_tree (id : String) : Hit (Json.tree (hit id)) id := by
  simp only [hit, Json.tree, Json.fieldTrees]
  exact .mk (.object (by simp) (by simp)) (.object (.head _))

theorem twoHits_tree : Hits (Json.tree twoHits) ["7", "3"] := by
  simp only [twoHits, Json.tree, Json.fieldTrees, Json.itemTrees]
  exact .listed (.object (by simp) (by simp [List.countP_cons])) (.object (.tail _ (.head _)))
    (.cons (hit_tree "7") (.cons (hit_tree "3") .nil))

theorem four_twoHits_answers :
    Answers (Json.tree (.object [("took", .int 4), ("hits", twoHits)])) ⟨4, ["7", "3"]⟩ := by
  have hmeans : (Json.Numeral.mk false [4] [] none).Means 4 := .short ⟨rfl, rfl, by decide⟩
  have hfour : Json.tree (.int 4) = .number ⟨false, [4], [], none⟩ := by
    rw [Json.tree, show (Json.intSpelling 4).numeral = ⟨false, [4], [], none⟩ by decide]
  simp only [Json.tree, Json.fieldTrees] at hfour ⊢
  rw [hfour]
  exact .mk (.object (by simp) (by simp [List.countP_cons])) (.object (.head _)) hmeans
    (.object (.tail _ (.head _))) twoHits_tree

/-- The hits come back in their order. Of a refusal the text comes back, cut short as it is. -/
theorem two_hits_are_decoded :
    let body := "\x7b\"took\":4,\"hits\":\x7b\"total\":2," ++
      "\"hits\":[\x7b\"_id\":\"7\"\x7d,\x7b\"_id\":\"3\"\x7d]\x7d\x7d"
    let search (server : Transport (StateM Unit)) :=
      (Connection.search server ⟨"localhost", 9200, 10⟩ ⟨"docs", .object [], []⟩ ()).1
    search (answering 200 (Text.bytes body)) = .ok ⟨4, ["7", "3"]⟩ ∧
      search (answering 503 [0x6F, 0x66, 0x66, 0xE2, 0x82]) = .error (.status 503 "off\uFFFD") := by
  intro body search
  have hrequest := Connection.httpRequest?_eq (c := ⟨"localhost", 9200, 10⟩)
    Connection.localhost_plain (by decide) ⟨"docs", .object [], []⟩
  have hdecoded : ∀ status bytes,
      Decoded status bytes (search (answering status bytes)) := by
    intro status bytes
    have hsearch := search_decodes_answers (answering status bytes) ⟨"localhost", 9200, 10⟩
      ⟨"docs", .object [], []⟩ ()
    rw [hrequest] at hsearch
    obtain ⟨found, heq, hfound⟩ := hsearch
    simpa only [search, heq] using hfound
  constructor
  · have hbody : body.toList = (Json.object [("took", .int 4), ("hits", twoHits)]).chars := by
      decide +kernel
    have hshows := (Text.decode_eq_iff _ _).mp (Text.decode_encoded body.toList)
    rw [← Text.bytes_eq, hbody] at hshows
    exact ((hdecoded 200 _).accepted _).mpr ⟨by decide, _, _, hshows, Json.chars_writes _,
      four_twoHits_answers⟩
  · have hreads : Reads [0x6F, 0x66, 0x66, 0xE2, 0x82] "off\uFFFD" := by
      rw [reads_iff]
      simp [Text.utf8Lossy, Text.decode, Text.leadShape, Text.continued]
    exact ((hdecoded 503 _).refused _ _).mpr ⟨by decide, rfl, hreads⟩

end SearchReply

end NeighborBench
