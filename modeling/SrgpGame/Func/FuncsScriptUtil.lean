import SrgpGame.Core.Codes
import SrgpGame.Func.Param
import SrgpGame.Func.Selections
import SrgpGame.Util.Decimal

set_option autoImplicit false

/-!
# Functions as scripts

Which functions goods have is configured as a text: how they are chosen, a parameter for that, and
the functions, each with its type, its parameters, its rate and its configuration of guaranteed
drops. `FuncsScriptUtil` makes an executor of the text. This file proves that it is the executor
that the text was written for.

## Main definitions

* `SyncFuncType`, `SyncFunc` — the functions that can be configured.
* `FuncsExecutor` — the executors that collect them.
* `trans` — `FuncsScriptUtil.trans`.
* `Script`, `Script.render` — what is configured, and the text of it.

## Main results

* `trans_render` — the text of a script gives the executor of its kind and parameter that has
  accepted its functions.

## Implementation notes

The parameter of a script, the numbers of a function and its value are each an `int`, as they are
parsed. What `Character.digit` knows of a character is a parameter.
-/

namespace SrgpGame.Func

open Util (join parseInt renderInt split)

/-! ## Functions -/

/-- `SyncFuncType`: the functions that are registered. -/
inductive SyncFuncType where
  | NullFunc | LearnSkill | ChangeGoods | SwallowHero | ChangeCur | SendMail | AddPlayerVipExp
  | AddPlayerExp | ExecFuncsGoods | AddActiveness | PlayerLevel | CollectManualCost
  | ChangeGuildMny | OpenCard | ChangeFuncTimes
  deriving DecidableEq, Repr

namespace SyncFuncType

/-- The number of a type. -/
def getType : SyncFuncType → Int32
  | NullFunc => 0
  | LearnSkill => 1
  | ChangeGoods => 2
  | SwallowHero => 3
  | ChangeCur => 4
  | SendMail => 8
  | AddPlayerVipExp => 9
  | AddPlayerExp => 10
  | ExecFuncsGoods => 11
  | AddActiveness => 15
  | PlayerLevel => 18
  | CollectManualCost => 19
  | ChangeGuildMny => 20
  | OpenCard => 24
  | ChangeFuncTimes => 30

def values : List SyncFuncType :=
  [NullFunc, LearnSkill, ChangeGoods, SwallowHero, ChangeCur, SendMail, AddPlayerVipExp,
    AddPlayerExp, ExecFuncsGoods, AddActiveness, PlayerLevel, CollectManualCost, ChangeGuildMny,
    OpenCard, ChangeFuncTimes]

/-- `Enums.get`. -/
def get (type : Int32) : Option SyncFuncType := values.find? fun sfType => sfType.getType = type

/-- A registered type is found by its number. -/
@[simp] lemma get_getType (sfType : SyncFuncType) : get sfType.getType = some sfType := by
  cases sfType <;> rfl

end SyncFuncType

/-- A `SyncFunc` that a text gives: a copy of the registered one, with its own parameters. -/
structure SyncFunc where
  type : SyncFuncType
  param : FuncParam
  rate : Int32 := 0
  steadyExecId : Int32 := 0
  deriving DecidableEq, Repr

/-! ## Executors -/

/-- `FuncsExecutorsType`, as far as texts name them. -/
inductive FuncsExecutorsType where
  | All | Random | Roulette | Selection
  deriving DecidableEq, Repr

/-- `SelectionFuncsExcecutor`: the functions accepted so far, and how many the player chooses. -/
structure SelectionFuncsExcecutor where
  allFuncs : List SyncFunc
  reqParamNum : Int32

/-- `FuncsExecutor`, with what each of the executors keeps. -/
inductive FuncsExecutor where
  | all (allFuncs : List SyncFunc)
  | random (exec : RandomFuncsExecutor SyncFunc)
  | roulette (exec : RouletteFuncsExecutor SyncFunc)
  | selection (exec : SelectionFuncsExcecutor)

/-- `getExecutor`: an executor without functions. -/
def FuncsExecutorsType.getExecutor : FuncsExecutorsType → FuncsExecutor
  | .All => .all []
  | .Random => .random ⟨[], 0⟩
  | .Roulette => .roulette ⟨[], 0⟩
  | .Selection => .selection ⟨[], 0⟩

namespace FuncsExecutor

/-- `setExecutorParam`, which does nothing where no parameter is kept. -/
def setExecutorParam (param : Int32) : FuncsExecutor → FuncsExecutor
  | .all allFuncs => .all allFuncs
  | .random exec => .random (exec.setExecutorParam param)
  | .roulette exec => .roulette exec
  | .selection exec => .selection { exec with reqParamNum := param }

/-- `acceptFunc`, with `whenAcceptFunc`. -/
def acceptFunc (func : SyncFunc) : FuncsExecutor → FuncsExecutor
  | .all allFuncs => .all (allFuncs ++ [func])
  | .random exec => .random (exec.acceptFunc func)
  | .roulette exec => .roulette (exec.acceptFunc SyncFunc.rate func)
  | .selection exec => .selection { exec with allFuncs := exec.allFuncs ++ [func] }

/-- `getAllFuncs`. -/
def getAllFuncs : FuncsExecutor → List SyncFunc
  | .all allFuncs => allFuncs
  | .random exec => exec.allFuncs
  | .roulette exec => exec.allFuncs
  | .selection exec => exec.allFuncs

/-- An executor of a type with a parameter that has accepted functions. -/
def accepted (type : FuncsExecutorsType) (param : Int32) (funcs : List SyncFunc) : FuncsExecutor :=
  funcs.foldl (fun exec func => exec.acceptFunc func) (type.getExecutor.setExecutorParam param)

lemma getAllFuncs_acceptFunc (func : SyncFunc) (exec : FuncsExecutor) :
    (exec.acceptFunc func).getAllFuncs = exec.getAllFuncs ++ [func] := by
  cases exec <;> rfl

/-- It has the functions in the order in which they were accepted. -/
lemma getAllFuncs_accepted (type : FuncsExecutorsType) (param : Int32) (funcs : List SyncFunc) :
    (accepted type param funcs).getAllFuncs = funcs := by
  have hloop : ∀ (funcs : List SyncFunc) (exec : FuncsExecutor),
      (funcs.foldl (fun exec func => exec.acceptFunc func) exec).getAllFuncs =
        exec.getAllFuncs ++ funcs := by
    intro funcs
    induction funcs with
    | nil => exact fun exec => (List.append_nil _).symm
    | cons func funcs ih =>
      intro exec
      rw [List.foldl_cons, ih, getAllFuncs_acceptFunc, List.append_assoc]
      rfl
  rw [accepted, hloop]
  cases type <;> rfl

end FuncsExecutor

/-! ## Reading a text -/

/-- What is thrown on a text. -/
inductive ScriptError where
  | arrayIndexOutOfBounds
  /-- `RuntimeException`, with its message. -/
  | runtime (message : List Char)
  /-- `NumberFormatException`. -/
  | numberFormat
  /-- `LogicException` with the code `General_Csv_Error`, and its message. -/
  | generalCsvError (message : List Char)
  deriving DecidableEq, Repr

/-- `funcHeadMapping`. -/
def funcHeadMapping : List (List Char × FuncsExecutorsType) :=
  [("all".toList, .All), ("one".toList, .Random), ("some".toList, .Random),
    ("roul".toList, .Roulette), ("chosen".toList, .Selection)]

section Text

variable (digit : Char → Option ℕ)

/-- The parameters of a function: how many there are says which they are. The last one but the
first is the value. -/
def readParam (infos : List (List Char)) : Option FuncParam :=
  match infos with
  | _ :: param :: param2 :: param3 :: value :: _ => do
    let param ← parseInt digit param
    let param2 ← parseInt digit param2
    let param3 ← parseInt digit param3
    let value ← parseInt digit value
    return { param, param2, param3, value := value.toInt64 }
  | [_, param, param2, value] => do
    let param ← parseInt digit param
    let param2 ← parseInt digit param2
    let value ← parseInt digit value
    return { param, param2, value := value.toInt64 }
  | [_, param, value] => do
    let param ← parseInt digit param
    let value ← parseInt digit value
    return { param, value := value.toInt64 }
  | [_, param] => do
    let param ← parseInt digit param
    return { param, value := 0 }
  | _ => some { param := 0, value := 0 }

/-- A number that is at a place, if there is anything. -/
def readAt (args : List (List Char)) (ix : ℕ) : Option Int32 :=
  match args[ix]? with
  | some arg => parseInt digit arg
  | none => some 0

/-- The `try` of `transFunc`, nothing when it throws. -/
def readFunc (args : List (List Char)) : Option SyncFunc := do
  let infos := split '$' (← args[0]?)
  let funcType ← parseInt digit (← infos[0]?)
  let sfType ← SyncFuncType.get funcType
  let param ← readParam digit infos
  let rate ← readAt digit args 1
  let steadyExecId ← readAt digit args 2
  return ⟨sfType, param, rate, steadyExecId⟩

/-- The message about a function that cannot be read. -/
def errorMessage (args : List (List Char)) : List Char :=
  "==".toList ++ (args.mapIdx fun i arg =>
    " args[".toList ++ (Nat.toDigits 10 i ++ ("]：".toList ++ arg))).flatten

/-- **`transFunc`**. -/
def transFunc (isDebug : Bool) (args : List (List Char)) : Except ScriptError SyncFunc :=
  match readFunc digit args with
  | some func => .ok func
  | none =>
    let message := errorMessage args
    if isDebug then .error (.generalCsvError message)
    else .error (.runtime ("====ItemVO==error===args[]====".toList ++ message))

/-- **`FuncsScriptUtil.trans`**. -/
def trans (isDebug : Bool) (script : List Char) : Except ScriptError FuncsExecutor :=
  match split ':' script with
  | [] => .error .arrayIndexOutOfBounds
  | typeStr :: infos =>
    match funcHeadMapping.lookup typeStr with
    | none => .error (.runtime ("not support ExecutorType:".toList ++ typeStr))
    | some execType => do
      let (execParam, subInfos) ← (match infos with
        | [] => .error .arrayIndexOutOfBounds
        | [subInfos] => .ok (1, subInfos)
        | execParam :: subInfos :: _ =>
          match parseInt digit execParam with
          | none => .error .numberFormat
          | some execParam => .ok (execParam, subInfos))
      let exec := execType.getExecutor.setExecutorParam execParam
      (split ';' subInfos).foldlM (fun exec subInfo => do
        let func ← transFunc digit isDebug (split '|' subInfo)
        return exec.acceptFunc func) exec

end Text

/-! ## Writing a text -/

/-- The fields of a function behind its type, in the five layouts. -/
inductive Fields where
  | typeOnly
  | withParam (param : Int32)
  | withValue (param value : Int32)
  | withParam2 (param param2 value : Int32)
  | withParam3 (param param2 param3 value : Int32)
  deriving DecidableEq, Repr

/-- The fields as they stand in a text. -/
def Fields.toList : Fields → List Int32
  | .typeOnly => []
  | .withParam param => [param]
  | .withValue param value => [param, value]
  | .withParam2 param param2 value => [param, param2, value]
  | .withParam3 param param2 param3 value => [param, param2, param3, value]

/-- The parameters that the fields stand for. -/
def Fields.funcParam : Fields → FuncParam
  | .typeOnly => { param := 0, value := 0 }
  | .withParam param => { param, value := 0 }
  | .withValue param value => { param, value := value.toInt64 }
  | .withParam2 param param2 value => { param, param2, value := value.toInt64 }
  | .withParam3 param param2 param3 value => { param, param2, param3, value := value.toInt64 }

/-- The rate of a function, and its configuration of guaranteed drops behind it. -/
inductive Drop where
  | always
  | withRate (rate : Int32)
  | withFixed (rate steadyExecId : Int32)
  deriving DecidableEq, Repr

def Drop.toList : Drop → List Int32
  | .always => []
  | .withRate rate => [rate]
  | .withFixed rate steadyExecId => [rate, steadyExecId]

/-- A function as it is configured. -/
structure FuncScript where
  type : SyncFuncType
  fields : Fields
  drop : Drop
  deriving DecidableEq, Repr

/-- The function that is configured. -/
def FuncScript.func (script : FuncScript) : SyncFunc where
  type := script.type
  param := script.fields.funcParam
  rate := script.drop.toList.getD 0 0
  steadyExecId := script.drop.toList.getD 1 0

/-- The kinds of executors, as they stand in a text. -/
inductive Kind where
  | all | one | some | roul | chosen
  deriving DecidableEq, Repr

def Kind.head : Kind → List Char
  | .all => "all".toList
  | .one => "one".toList
  | .some => "some".toList
  | .roul => "roul".toList
  | .chosen => "chosen".toList

/-- The executor of a kind. -/
def Kind.execType : Kind → FuncsExecutorsType
  | .all => .All
  | .one => .Random
  | .some => .Random
  | .roul => .Roulette
  | .chosen => .Selection

/-- **A script**: how functions are chosen, a parameter for it, which is one if it is left out, and
the functions. -/
structure Script where
  kind : Kind
  param : Option Int32
  funcs : List FuncScript
  funcs_ne_nil : funcs ≠ []

/-- The text of a function. -/
def FuncScript.render (script : FuncScript) : List Char :=
  join '|' (join '$' ((script.type.getType :: script.fields.toList).map renderInt) ::
    script.drop.toList.map renderInt)

/-- **The text of a script**. -/
def Script.render (script : Script) : List Char :=
  join ':' (script.kind.head :: (script.param.toList.map renderInt ++
    [join ';' (script.funcs.map FuncScript.render)]))

/-! ## Reading what was written -/

section Render

/-- A separator of texts. -/
def separators : List Char := [':', ';', '|', '$']

lemma not_mem_renderInt {c : Char} (hc : c ∈ separators) (i : Int32) : c ∉ renderInt i := by
  have hsep : ∀ c ∈ separators, c.isDigit = false ∧ c ≠ '-' := by
    intro c hc
    simp only [separators, List.mem_cons, List.not_mem_nil, or_false] at hc
    rcases hc with rfl | rfl | rfl | rfl <;> decide
  intro hmem
  rcases Util.mem_renderInt hmem with hdigit | hminus
  · rw [(hsep c hc).1] at hdigit
    exact Bool.false_ne_true hdigit
  · exact (hsep c hc).2 hminus

/-- Rendered numbers are fields: they are not empty. -/
lemma renderInt_fields_ne_nil (fields : List Int32) :
    ∀ field ∈ fields.map renderInt, field ≠ [] := by
  intro field hfield
  obtain ⟨i, -, rfl⟩ := List.mem_map.mp hfield
  exact Util.renderInt_ne_nil i

/-- Rendered numbers are fields: they have no separator in them. -/
lemma not_mem_renderInt_fields {c : Char} (hc : c ∈ separators) (fields : List Int32) :
    ∀ field ∈ fields.map renderInt, c ∉ field := by
  intro field hfield
  obtain ⟨i, -, rfl⟩ := List.mem_map.mp hfield
  exact not_mem_renderInt hc i

/-- The numbers of a function are split as they were joined. -/
lemma split_dollar (type : Int32) (fields : List Int32) :
    split '$' (join '$' ((type :: fields).map renderInt)) = (type :: fields).map renderInt :=
  Util.split_join (by simp) (renderInt_fields_ne_nil _) (not_mem_renderInt_fields (by decide) _)

/-- The numbers of a function have none of the other separators. -/
lemma not_mem_join_dollar {c : Char} (hc : c ∈ separators) (hne : c ≠ '$') (fields : List Int32) :
    c ∉ join '$' (fields.map renderInt) := by
  intro hmem
  obtain rfl | ⟨field, hfield, hmem⟩ := Util.mem_join hmem
  · exact hne rfl
  · exact not_mem_renderInt_fields hc fields field hfield hmem

lemma join_dollar_ne_nil (type : Int32) (fields : List Int32) :
    join '$' ((type :: fields).map renderInt) ≠ [] :=
  Util.join_ne_nil (by simp) (renderInt_fields_ne_nil _)

/-- The parts of a function are not empty. -/
lemma parts_ne_nil (script : FuncScript) :
    ∀ part ∈ join '$' ((script.type.getType :: script.fields.toList).map renderInt) ::
      script.drop.toList.map renderInt, part ≠ [] :=
  List.forall_mem_cons.mpr ⟨join_dollar_ne_nil _ _, renderInt_fields_ne_nil _⟩

/-- The parts of a function have none of the separators outside them. -/
lemma not_mem_parts {c : Char} (hc : c ∈ separators) (hdollar : c ≠ '$') (script : FuncScript) :
    ∀ part ∈ join '$' ((script.type.getType :: script.fields.toList).map renderInt) ::
      script.drop.toList.map renderInt, c ∉ part :=
  List.forall_mem_cons.mpr
    ⟨not_mem_join_dollar hc hdollar _, not_mem_renderInt_fields hc _⟩

/-- The parts of a function are split as they were joined. -/
lemma split_render (script : FuncScript) :
    split '|' script.render =
      join '$' ((script.type.getType :: script.fields.toList).map renderInt) ::
        script.drop.toList.map renderInt :=
  Util.split_join (by simp) (parts_ne_nil script) (not_mem_parts (by decide) (by decide) script)

/-- The text of a function has none of the separators outside it. -/
lemma not_mem_render {c : Char} (hc : c ∈ separators) (hbar : c ≠ '|') (hdollar : c ≠ '$')
    (script : FuncScript) : c ∉ script.render := by
  intro hmem
  obtain rfl | ⟨part, hpart, hmem⟩ := Util.mem_join hmem
  · exact hbar rfl
  · exact not_mem_parts hc hdollar script part hpart hmem

lemma render_ne_nil (script : FuncScript) : script.render ≠ [] :=
  Util.join_ne_nil (by simp) (parts_ne_nil script)

/-- The texts of functions are not empty. -/
lemma funcs_ne_nil (funcs : List FuncScript) : ∀ text ∈ funcs.map FuncScript.render, text ≠ [] := by
  intro text htext
  obtain ⟨func, -, rfl⟩ := List.mem_map.mp htext
  exact render_ne_nil func

/-- The texts of functions have none of the separators outside them. -/
lemma not_mem_funcs {c : Char} (hc : c ∈ separators) (hbar : c ≠ '|') (hdollar : c ≠ '$')
    (funcs : List FuncScript) : ∀ text ∈ funcs.map FuncScript.render, c ∉ text := by
  intro text htext
  obtain ⟨func, -, rfl⟩ := List.mem_map.mp htext
  exact not_mem_render hc hbar hdollar func

/-- The functions are split as they were joined. -/
lemma split_semicolon {funcs : List FuncScript} (hfuncs : funcs ≠ []) :
    split ';' (join ';' (funcs.map FuncScript.render)) = funcs.map FuncScript.render :=
  Util.split_join (by simpa using hfuncs) (funcs_ne_nil funcs)
    (not_mem_funcs (by decide) (by decide) (by decide) funcs)

/-- The text of a script is split into its head, its parameter and its functions. -/
lemma split_colon (script : Script) :
    split ':' script.render = script.kind.head :: (script.param.toList.map renderInt ++
      [join ';' (script.funcs.map FuncScript.render)]) := by
  have hfuncs : join ';' (script.funcs.map FuncScript.render) ≠ [] :=
    Util.join_ne_nil (by simpa using script.funcs_ne_nil) (funcs_ne_nil _)
  have hcolon : ':' ∉ join ';' (script.funcs.map FuncScript.render) := by
    intro hmem
    obtain hsemicolon | ⟨text, htext, hmem⟩ := Util.mem_join hmem
    · exact absurd hsemicolon (by decide)
    · exact not_mem_funcs (by decide) (by decide) (by decide) _ text htext hmem
  have hhead : script.kind.head ≠ [] ∧ ':' ∉ script.kind.head := by
    cases script.kind <;> decide
  refine Util.split_join (by simp) (List.forall_mem_cons.mpr ⟨hhead.1, ?_⟩)
    (List.forall_mem_cons.mpr ⟨hhead.2, ?_⟩)
  · refine List.forall_mem_append.mpr ⟨renderInt_fields_ne_nil _, ?_⟩
    exact List.forall_mem_singleton.mpr hfuncs
  · refine List.forall_mem_append.mpr ⟨not_mem_renderInt_fields (by decide) _, ?_⟩
    exact List.forall_mem_singleton.mpr hcolon

variable {digit : Char → Option ℕ} (hdigit : ∀ d < 10, digit (Nat.digitChar d) = some d)
include hdigit

/-- The parameters are read, whichever layout they are in. -/
lemma readParam_render (type : Int32) (fields : Fields) :
    readParam digit ((type :: fields.toList).map renderInt) = some fields.funcParam := by
  cases fields <;>
    simp [readParam, Fields.toList, Fields.funcParam, Util.parseInt_renderInt hdigit]

/-- What is at a place behind the first part, or zero if there is nothing. -/
lemma readAt_render (arg : List Char) (drop : List Int32) (ix : ℕ) :
    readAt digit (arg :: drop.map renderInt) (ix + 1) = some (drop.getD ix 0) := by
  rw [readAt, List.getElem?_cons_succ, List.getElem?_map, List.getD]
  cases drop[ix]? with
  | none => rfl
  | some i => exact Util.parseInt_renderInt hdigit i

/-- **A function is read** from its text. -/
lemma transFunc_render (isDebug : Bool) (script : FuncScript) :
    transFunc digit isDebug (split '|' script.render) = .ok script.func := by
  have hfunc : readFunc digit (split '|' script.render) = some script.func := by
    have hinfos := split_dollar script.type.getType script.fields.toList
    have hparam := readParam_render hdigit script.type.getType script.fields
    have hfirst : ((script.type.getType :: script.fields.toList).map renderInt)[0]? =
        some (renderInt script.type.getType) := rfl
    rw [split_render, readFunc]
    simp only [List.getElem?_cons_zero, Option.bind_eq_bind, Option.bind_some, hinfos, hfirst,
      Util.parseInt_renderInt hdigit, SyncFuncType.get_getType, hparam, readAt_render hdigit]
    rfl
  rw [transFunc, hfunc]

/-- Functions are read one after another, and accepted. -/
lemma foldlM_render (isDebug : Bool) (funcs : List FuncScript) (exec : FuncsExecutor) :
    (funcs.map FuncScript.render).foldlM (fun exec subInfo => do
        let func ← transFunc digit isDebug (split '|' subInfo)
        return exec.acceptFunc func) exec =
      .ok ((funcs.map FuncScript.func).foldl (fun exec func => exec.acceptFunc func) exec) := by
  induction funcs generalizing exec with
  | nil => rfl
  | cons func funcs ih =>
    rw [List.map_cons, List.foldlM_cons, transFunc_render hdigit]
    exact ih (exec.acceptFunc func.func)

/-- **The text of a script gives its executor**: of its kind and with its parameter, and it has
accepted just the functions of the script, in their order. -/
theorem trans_render (isDebug : Bool) (script : Script) :
    trans digit isDebug script.render =
        .ok (.accepted script.kind.execType (script.param.getD 1)
          (script.funcs.map FuncScript.func)) ∧
      (FuncsExecutor.accepted script.kind.execType (script.param.getD 1)
        (script.funcs.map FuncScript.func)).getAllFuncs = script.funcs.map FuncScript.func := by
  refine ⟨?_, FuncsExecutor.getAllFuncs_accepted _ _ _⟩
  have hhead : funcHeadMapping.lookup script.kind.head = some script.kind.execType := by
    cases script.kind <;> decide
  rw [trans, split_colon]
  dsimp only
  rw [hhead]
  dsimp only
  have hfuncs : ∀ exec : FuncsExecutor,
      (split ';' (join ';' (script.funcs.map FuncScript.render))).foldlM (fun exec subInfo => do
        let func ← transFunc digit isDebug (split '|' subInfo)
        return exec.acceptFunc func) exec =
      .ok ((script.funcs.map FuncScript.func).foldl
        (fun exec func => exec.acceptFunc func) exec) := by
    intro exec
    rw [split_semicolon script.funcs_ne_nil]
    exact foldlM_render hdigit isDebug script.funcs exec
  cases hparam : script.param with
  | none => exact hfuncs _
  | some param =>
    simp only [Option.toList_some, List.map_cons, List.map_nil, List.cons_append, List.nil_append,
      Util.parseInt_renderInt hdigit]
    exact hfuncs _

end Render

/-- Two functions of three: a cost of a currency with a rate and a guaranteed drop, goods, and a
function without parameters. -/
def someOfThree : Script where
  kind := .some
  param := some 2
  funcs := [⟨.ChangeCur, .withValue 1 (-30), .withFixed 5 7⟩,
    ⟨.ChangeGoods, .withParam2 60001 0 2, .withRate 40⟩, ⟨.ExecFuncsGoods, .typeOnly, .always⟩]
  funcs_ne_nil := by decide

example : someOfThree.render = "some:2:4$1$-30|5|7;2$60001$0$2|40;11".toList := by decide

/-- They are read again. -/
theorem trans_someOfThree :
    trans Util.asciiDigit false someOfThree.render =
      .ok (.random ⟨[⟨.ChangeCur, { param := 1, value := -30 }, 5, 7⟩,
        ⟨.ChangeGoods, { param := 60001, value := 2 }, 40, 0⟩,
        ⟨.ExecFuncsGoods, { param := 0, value := 0 }, 0, 0⟩], 2⟩) :=
  (trans_render (by decide) false someOfThree).1

end SrgpGame.Func
