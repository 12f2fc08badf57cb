import PycloudParallel.FoundationGuardedRun
import PycloudParallel.FoundationTexts
import PycloudParallel.ObjectMaterializers

/-!
# Admin tokens

`pycloudctl admin-token` gives the nodes a new admin token.  A node that has one
already takes the new one only with the old one, so the operator's host keeps the
last three tokens in a file and sends them along.
-/

namespace PycloudParallel.AdminTokens

open Texts
open ObjectStore (universalNewlines universalNewlines_eq_self_iff)

abbrev Token := String

abbrev NodeFile := Option (List Char)

def configuredAdminToken : NodeFile → Token
  | none => ""
  | some text => strip (.ofList (universalNewlines text))

def writeAdminToken (token : Token) : NodeFile :=
  some ((strip token).toList ++ ['\n'])

def isAscii (text : String) : Bool :=
  text.toList.all fun char => decide (char.toNat < 128)

/-- `secrets.compare_digest`; it raises for texts that are not ASCII. -/
def compareDigest (first second : Token) : Option Bool :=
  if isAscii first && isAscii second then some (decide (first = second))
  else none

/-- `any(secrets.compare_digest(old_token, current) ...)`. -/
def anyMatches (current : Token) : List Token → Option Bool
  | [] => some false
  | oldToken :: oldTokens =>
    match compareDigest oldToken current with
    | none => none
    | some true => some true
    | some false => anyMatches current oldTokens

/-- `_set_admin_token`: the file that it leaves, or `none` when it refuses. -/
def setAdminToken (file : NodeFile) (adminToken : Token)
    (oldAdminTokens : List Token) : Option NodeFile :=
  let newToken := strip adminToken
  let oldTokens := (oldAdminTokens.map strip).filter (· ≠ "")
  if newToken = "" then none
  else if configuredAdminToken file = "" then some (writeAdminToken newToken)
  else if anyMatches (configuredAdminToken file) oldTokens = some true then
    some (writeAdminToken newToken)
  else none

inductive TokenFile
  | missing
  /-- A text that is not a JSON object. -/
  | plain (text : String)
  | window (currentToken : Token) (previousTokens : List Token)
deriving DecidableEq

def loadLocalAdminTokenWindow : TokenFile → Token × List Token
  | .missing => ("", [])
  | .plain text => (strip text, [])
  | .window current previous =>
    (strip current, ((previous.map strip).filter (· ≠ "")).take 2)

/-- The loop of `_write_local_admin_token_window`: at most so many more tokens,
none of them blank or seen already. -/
def keepPrevious : ℕ → List Token → List Token → List Token
  | 0, _, _ => []
  | _ + 1, _, [] => []
  | room + 1, seen, item :: items =>
    if strip item = "" ∨ strip item ∈ seen then keepPrevious (room + 1) seen items
    else strip item :: keepPrevious room (strip item :: seen) items

def writeLocalAdminTokenWindow (currentToken : Token)
    (previousTokens : List Token) : TokenFile :=
  .window (strip currentToken)
    (keepPrevious 2 [strip currentToken] previousTokens)

def localTokens (loaded : Token × List Token) : List Token :=
  if loaded.1 ≠ "" then loaded.1 :: loaded.2 else loaded.2

/-- The tokens that a run without `--old-token` sends along. -/
def oldAdminTokens (loaded : Token × List Token) : List Token :=
  ((loaded.1 :: loaded.2).filter (· ≠ "")).take 3

/-! ## Runs of `_cmd_admin_token` -/

abbrev NodeId := String

/-- A run that has not ended; `stored` are the nodes that it has given its token
to, whether it knows it or not. -/
structure Running where
  adminToken : Token
  generateOnly : Bool
  continueOnError : Bool
  loaded : Token × List Token
  nodes : List NodeId
  successes : ℕ
  stored : List NodeId

structure StoringRun where
  adminToken : Token
  nodes : List NodeId
deriving DecidableEq

structure Rotation where
  nodeFiles : NodeId → NodeFile
  tokenFile : TokenFile
  running : Option Running
  /-- The runs that stored a token on a node or in the window, newest first. -/
  history : List StoringRun

def Rotation.start (tokenFile : TokenFile) : Rotation :=
  ⟨fun _ => none, tokenFile, none, []⟩

inductive Delivery
  | answered
  /-- It is handled, but its answer is lost. -/
  | answerLost
  | neverArrives
deriving DecidableEq

inductive RotationLabel
  | start (adminToken : Token) (generateOnly continueOnError : Bool)
    (nodes : List NodeId)
  | request (delivery : Delivery)
  /-- The loop over the nodes is over: the window is written, or not. -/
  | finish
  | kill

namespace Running

def fail (run : Running) (rest : List NodeId) : Running :=
  { run with nodes := if run.continueOnError then rest else [] }

def succeed (run : Running) (rest : List NodeId) : Running :=
  { run with nodes := rest, successes := run.successes + 1 }

def store (run : Running) (node : NodeId) : Running :=
  { run with stored := run.stored ++ [node] }

def accepted (run : Running) (nodeFiles : NodeId → NodeFile) (node : NodeId) :
    Option NodeFile :=
  setAdminToken (nodeFiles node) run.adminToken (oldAdminTokens run.loaded)

def writes (run : Running) : Bool :=
  run.generateOnly || decide (0 < run.successes)

end Running

namespace Rotation

def leave (s : Rotation) (run : Running) (tokenFile : TokenFile)
    (recorded : Bool) : Rotation :=
  { s with
    tokenFile := tokenFile
    running := none
    history := if recorded || !run.stored.isEmpty then
      ⟨run.adminToken, run.stored⟩ :: s.history else s.history }

def contact (s : Rotation) (run : Running) (node : NodeId) (rest : List NodeId)
    (delivery : Delivery) : Rotation :=
  match delivery, run.accepted s.nodeFiles node with
  | .neverArrives, _ => { s with running := some (run.fail rest) }
  | _, none => { s with running := some (run.fail rest) }
  | .answered, some file =>
    { s with
      nodeFiles := Function.update s.nodeFiles node file
      running := some ((run.store node).succeed rest) }
  | .answerLost, some file =>
    { s with
      nodeFiles := Function.update s.nodeFiles node file
      running := some ((run.store node).fail rest) }

end Rotation

def rotationStep (s : Rotation) : RotationLabel → Option Rotation
  | .start adminToken generateOnly continueOnError nodes =>
    match s.running with
    | some _ => none
    | none =>
      if strip adminToken = "" then none
      else some { s with
        running := some
          { adminToken := strip adminToken
            generateOnly := generateOnly
            continueOnError := continueOnError
            loaded := loadLocalAdminTokenWindow s.tokenFile
            nodes := if generateOnly then [] else nodes
            successes := 0
            stored := [] } }
  | .request delivery =>
    match s.running with
    | none => none
    | some run =>
      match run.nodes with
      | [] => none
      | node :: rest => some (s.contact run node rest delivery)
  | .finish =>
    match s.running with
    | none => none
    | some run =>
      if run.nodes ≠ [] then none
      else if run.writes then
        some (s.leave run (writeLocalAdminTokenWindow run.adminToken
          (localTokens run.loaded)) true)
      else some (s.leave run s.tokenFile false)
  | .kill =>
    match s.running with
    | none => none
    | some run => some (s.leave run s.tokenFile false)

def Rotation.windowTokens (s : Rotation) : List Token :=
  oldAdminTokens (loadLocalAdminTokenWindow s.tokenFile)

/-- Every node that stored the token of one of the latest three runs that stored
one holds a token of the window and takes the next run's token with it. -/
def Rotation.NoNodeLockedOut (s : Rotation) : Prop :=
  ∀ run ∈ s.history.take 3, ∀ node ∈ run.nodes,
    configuredAdminToken (s.nodeFiles node) ∈ s.windowTokens ∧
    ∀ next, strip next ≠ "" →
      (setAdminToken (s.nodeFiles node) next s.windowTokens).isSome = true

end PycloudParallel.AdminTokens
