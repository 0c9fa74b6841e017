import SrgpGame.Lib.Method
import SrgpGame.Lib.Runs
import SrgpGame.Lib.Machine
import SrgpGame.Login.StringUtil

set_option autoImplicit false

/-!
# Registration

A player registers with a name under a new account, or binds a name to an account that has none.
Accounts are in `account_data`, names in `account_other`, and mail addresses that are yet to be
confirmed in `not_certified`. A registration writes up to three rows, with no transaction.

## Main definitions

* `Database` — the three tables.
* `register` — `AccountService.register`, with `saveAccount` and `typeJudge`.

## Design notes

Every statement is atomic: an insertion that the database refuses throws and inserts nothing. What
the database takes two texts for the same by, and which texts fit into a column, is given by an
`Env`. The `DataAccessException`s are caught where the tables are used, so here the statements throw
the `PlatformException` that they become.
-/

namespace SrgpGame.Login

/-! ## Tables -/

/-- What registration finds outside: the database and the library. -/
structure Env where
  /-- Two texts are the same to the database if they have the same image. -/
  collate : String → String
  /-- `DigestUtils.md5Hex`. -/
  md5Hex : String → List UInt16
  /-- Whether a text fits into `account_data.uid`. -/
  fitsUid : String → Bool
  /-- Whether a text fits into `account_other.account`. -/
  fitsAccount : String → Bool
  /-- Whether a text fits into `not_certified.account`. -/
  fitsCertified : String → Bool

/-- A row of `account_data`. -/
structure AccountData where
  id : ℕ
  uid : String
  createTime : Int64
  accountType : String
  deriving DecidableEq, Repr

/-- A row of `account_other`. -/
structure AccountOther where
  id : ℕ
  aId : ℕ
  type : Int32
  account : String
  password : Option (List UInt16)
  bindingTime : Int64
  deriving DecidableEq, Repr

/-- A row of `not_certified`. -/
structure NotCertified where
  id : ℕ
  account : String
  deriving DecidableEq, Repr

/-- **The tables**, with the last automatic id of each. -/
structure Database where
  accountData : List AccountData
  accountOther : List AccountOther
  notCertified : List NotCertified
  lastData : ℕ
  lastOther : ℕ
  lastCertified : ℕ
  deriving DecidableEq, Repr

/-- The tables before the first registration. -/
def Database.empty : Database := ⟨[], [], [], 0, 0, 0⟩

/-- `DataAccessException`. -/
inductive DataAccessException where
  /-- `EmptyResultDataAccessException`. -/
  | emptyResult
  /-- `IncorrectResultSizeDataAccessException`. -/
  | incorrectResultSize
  /-- `DataIntegrityViolationException`. -/
  | dataIntegrity
  deriving DecidableEq, Repr

/-- What `register` throws. -/
inductive RegisterError where
  /-- `PlatformException`. -/
  | platform (message : String) (code : ℕ)
  /-- `PlatformException("data add error!~" + …, DATA_ADD_ERROR)`, with its cause. -/
  | dataAdd (cause : DataAccessException)
  /-- An account type that is no `Int`. -/
  | classCast
  /-- `NullPointerException`. -/
  | nullPointer
  deriving DecidableEq, Repr

def PARAMETER_NULL : ℕ := 10003
def ACCOUNT_IS_NOT_MAIL : ℕ := 10005
def ACCOUNT_NOT_EXISTENCE : ℕ := 30001
def ACCOUNT_IS_BINDING : ℕ := 30007

/-- `LoginConfig.LOGIN_FUN123`. -/
def LOGIN_FUN123 : Int32 := 5

/-! ## Statements -/

section Statements

variable (env : Env)

/-- `GET_AID`. -/
def getAid (uid : String) (db : Database) : List ℕ :=
  (db.accountData.filter fun row => env.collate row.uid = env.collate uid).map AccountData.id

/-- `queryForObject`, which expects one row. -/
def queryForObject (rows : List ℕ) : Except RegisterError ℕ :=
  match rows with
  | [] => throw (.dataAdd .emptyResult)
  | [index] => pure index
  | _ => throw (.dataAdd .incorrectResultSize)

/-- `GET_OTHER_FOR_ID`. -/
def getOtherForId (aId : ℕ) (db : Database) : List AccountOther :=
  db.accountOther.filter fun row => row.aId = aId

/-- `GET_ACCOUNT_FOR_NAME`; null equals nothing. -/
def getAccountForName (account : Option String) (type : Int32) (db : Database) :
    List AccountOther :=
  db.accountOther.filter fun row =>
    some (env.collate row.account) = account.map env.collate ∧ row.type = type

/-- `ADD_ACCOUNT`. -/
def addAccount (uid : String) (time : Int64) : EStateM RegisterError Database Unit :=
  if env.fitsUid uid then
    modify fun db =>
      { db with
        accountData := db.accountData ++ [⟨db.lastData + 1, uid, time, "0"⟩]
        lastData := db.lastData + 1 }
  else throw (.dataAdd .dataIntegrity)

/-- `ADD_ACCOUNT_OTHER`; the name must not be null. -/
def addAccountOther (aId : ℕ) (type : Int32) (account : Option String)
    (password : Option (List UInt16)) (time : Int64) : EStateM RegisterError Database Unit :=
  match account with
  | none => throw (.dataAdd .dataIntegrity)
  | some account =>
    if env.fitsAccount account then
      modify fun db =>
        { db with
          accountOther :=
            db.accountOther ++ [⟨db.lastOther + 1, aId, type, account, password, time⟩]
          lastOther := db.lastOther + 1 }
    else throw (.dataAdd .dataIntegrity)

/-- `ADD_NOT_CERTIFIED`; the name must not be null. -/
def addNotCertified (account : Option String) : EStateM RegisterError Database Unit :=
  match account with
  | none => throw (.dataAdd .dataIntegrity)
  | some account =>
    if env.fitsCertified account then
      modify fun db =>
        { db with
          notCertified := db.notCertified ++ [⟨db.lastCertified + 1, account⟩]
          lastCertified := db.lastCertified + 1 }
    else throw (.dataAdd .dataIntegrity)

end Statements

/-! ## Saving an account -/

section Save

variable (env : Env)

/-- **`typeJudge`**. -/
def typeJudge (type : Option Int32) (account : Option String) : Except RegisterError Unit :=
  match type with
  | none => throw (.platform "account type no ,binding error!~" PARAMETER_NULL)
  | some type =>
    if type = 2 then
      match account with
      | none => throw .nullPointer
      | some account =>
        if !isMail account then throw (.platform "mail is error~" ACCOUNT_IS_NOT_MAIL) else pure ()
    else pure ()

/-- What `saveAccount` checks before a binding; the id of the account. -/
def checkBinding (id : String) (name : Option String) (type : Int32) (db : Database) :
    Except RegisterError ℕ := do
  let index ← queryForObject (getAid env id db)
  if index ≤ 0 then throw (.platform "account no ,binding error!~" ACCOUNT_NOT_EXISTENCE)
  else do
    typeJudge (some type) name
    if getOtherForId index db ≠ [] then throw (.platform "account is binding" ACCOUNT_IS_BINDING)
    else if getAccountForName env name type db ≠ [] then
      throw (.platform "account have!~" ACCOUNT_IS_BINDING)
    else return index

/-- What `saveAccount` checks before it adds an account: that a name, if there is one, is free. -/
def checkName (name : Option String) (type : Int32) (db : Database) : Except RegisterError Unit :=
  if name ≠ none ∧ getAccountForName env name type db ≠ [] then
    throw (.platform "account have!~" ACCOUNT_IS_BINDING)
  else pure ()

/-- What `saveAccount` checks after it has added an account; the id of the account. -/
def checkAdded (id : String) (name : Option String) (type : Int32) (db : Database) :
    Except RegisterError ℕ := do
  let index ← queryForObject (getAid env id db)
  typeJudge (some type) name
  return index

/-- The insertions for a name, and for a mail address that is yet to be confirmed. -/
def addName (index : ℕ) (type : Int32) (name : Option String) (pwd : Option (List UInt16))
    (time : Int64) : EStateM RegisterError Database Unit := do
  addAccountOther env index type name pwd time
  if type = 2 then addNotCertified env name else pure ()

/-- **`saveAccount`**. The number of inserted rows, which it also looks at, is one for every
insertion that is not refused. -/
def saveAccount (binding : Bool) (id : String) (name : Option String) (pwd : Option (List UInt16))
    (type : Int32) (time : Int64) : EStateM RegisterError Database Unit :=
  if binding then do
    let index ← EStateM.ofExcept (checkBinding env id name type)
    addName env index type name pwd time
  else do
    EStateM.ofExcept (checkName env name type)
    addAccount env id time
    if name ≠ none then do
      let index ← EStateM.ofExcept (checkAdded env id name type)
      addName env index type name pwd time
    else pure ()

/-- **The message of a registration.** The texts are what `toString` gives. -/
structure RegisterMsg where
  accountId : String
  /-- None, if this is no `Int`. -/
  accountType : Option Int32
  accountName : String
  password : String
  otherUid : String
  /-- What `UUID.randomUUID` gives. -/
  uuid : String
  /-- What `System.currentTimeMillis` gives. -/
  time : Int64

/-- `createAccountId`. -/
def createAccountId (type : Int32) (msg : RegisterMsg) : String :=
  if type = LOGIN_FUN123 then msg.otherUid else msg.uuid

namespace RegisterMsg

/-- The message asks for a name to be bound to an account. -/
def binding (msg : RegisterMsg) : Bool := !(lengthUtf16 msg.accountId < 2)

/-- The id of the account, the one that is created if none is given. -/
def id (msg : RegisterMsg) (type : Int32) : String :=
  if msg.binding then msg.accountId else createAccountId type msg

/-- The name, unless it is too short to be one. -/
def name (msg : RegisterMsg) : Option String :=
  if lengthUtf16 msg.accountName < 2 then none else some msg.accountName

end RegisterMsg

/-- **`register`**: returns the id of the account. -/
def register (msg : RegisterMsg) : EStateM RegisterError Database String :=
  match msg.accountType with
  | none => throw .classCast
  | some type => do
    let password := msg.name.map fun _ => changePassword env.md5Hex msg.password
    saveAccount env msg.binding (msg.id type) msg.name password type msg.time
    return msg.id type

end Save

end SrgpGame.Login
