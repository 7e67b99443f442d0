import NeighborBench.Yaml.Node

/-! # Documents -/

namespace NeighborBench.Yaml

structure Document where
  root : Node
  /-- The nodes that aliases stand for. -/
  anchored : List (Nat × Node)

namespace Document

/-- What handles stand for in every document that does not say otherwise. -/
def commonHandles : List (String × String) := [("!", "!"), ("!!", "tag:yaml.org,2002:")]

/-- The directives in front of a document, the first that is wrong being the error. -/
def handles (versioned : Bool) (found : List (String × String)) :
    List Directive → Except Fault (List (String × String))
  | [] => .ok (found ++ commonHandles)
  | .version major minor :: rest =>
    if versioned then .error .repeatedDirective
    else if major = 1 && (minor = 1 || minor = 2) then handles true found rest
    else .error .badVersion
  | .handle handle uri :: rest =>
    if (Keyed.get? handle found).isSome then .error .repeatedDirective
    else handles versioned (found ++ [(handle, uri)]) rest

def directivesOf : List Token → List Directive × List Token
  | .directive d :: rest =>
    let (ds, rest) := directivesOf rest
    (d :: ds, rest)
  | rest => ([], rest)

/-- Whether nothing stands in a document before these tokens. -/
def isEmpty : List Token → Bool
  | [] => true
  | .directive _ :: _ => true
  | .documentStart :: _ => true
  | .documentEnd :: _ => true
  | _ => false

/-- A root, and all that is known after it. -/
def compose (handles : List (String × String)) (tokens : List Token) :
    Except Fault (Node × Composition) :=
  (Compose.node true false (4 * tokens.length + 8)).run { rest := tokens, handles }

/-- A document in front of the tokens. Its start needs no mark if it has no directives. -/
def first (tokens : List Token) : Except Fault (Node × Composition) :=
  match directivesOf tokens with
  | ([], .documentStart :: rest) => body commonHandles rest
  | ([], []) => .ok (.empty, { rest := [], handles := [] })
  | ([], rest) => compose commonHandles rest
  | (directives, .documentStart :: rest) => do
    let handles ← handles false [] directives
    body handles rest
  | _ => .error (.unexpected "<document start>")
where
  body (handles : List (String × String)) (rest : List Token) : Except Fault (Node × Composition) :=
    if isEmpty rest then .ok (.empty, { rest, handles }) else compose handles rest

def anchoredNodes (c : Composition) : List (Nat × Node) :=
  c.places.filterMap fun (number, place) =>
    (c.nodes.find? (·.1 = place)).map fun found => (number, found.2)

def ofTokens (tokens : List Token) : Except Fault Document := do
  let (node, c) ← first tokens
  if (c.rest.dropWhile (· = .documentEnd)).isEmpty then pure ⟨node, anchoredNodes c⟩
  else throw (.unexpected "<document start>")

def ofText (text : String) : Except Fault Document := do
  let tokens ← tokens text
  ofTokens tokens

/-- The latest node with an anchor's number. -/
def anchored? (d : Document) (number : Nat) : Option Node :=
  (d.anchored.find? (·.1 = number)).map (·.2)

end Document

end NeighborBench.Yaml
