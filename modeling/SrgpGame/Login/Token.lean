import SrgpGame.Login.Account
import Mathlib.Data.Nat.Digits.Defs

set_option autoImplicit false

/-!
# Tokens of the login service

Who logs in gets a token, which is in `redis` for two days under his account, and a sign, which is
the token with the account, encrypted for the game. The game server has the sign verified. A login
replaces the token that is there in several steps, between which other logins make theirs.

## Main definitions

* `toString32` — `Long.toString` to base 32.
* `LoginService` — the tables, `redis`, the counter of tokens, and the logins under way.
* `LoginService.login`, `loginverificationCode` — what they check.
* `LoginService.proceed` — the next step of `newToken`.
* `LoginService.verify` — `verify`.
* `LoginService.step` — what happens.

## Design notes

What a login checks before it gets a token is one step, and every access of `redis` and of the
counter is one. Others may change the tables at any time. The logs of logins are left out, except
that a text may be too long for `login_log`.
-/

namespace SrgpGame.Login

/-! ## Texts -/

/-- A digit to base 32. -/
def digit32 (n : ℕ) : Char := "0123456789abcdefghijklmnopqrstuv".toList.getD n '0'

/-- **`Long.toString`** to base 32. -/
def toString32 (i : Int64) : String :=
  let digits := if i = 0 then ['0'] else ((Nat.digits 32 i.toInt.natAbs).map digit32).reverse
  String.ofList (if i.toInt < 0 then '-' :: digits else digits)

/-- **`StringUtil.isEmpty`**: nothing but blanks. -/
def isEmpty (text : String) : Bool := text.toList.all (· ≤ ' ')

/-- The text of a sign, cut at its separators, without the empty pieces at its end. -/
def signData (data : String) : List String :=
  ((data.toList.splitOn '&').reverse.dropWhile List.isEmpty).reverse.map String.ofList

/-! ## The service -/

/-- What logins find outside. -/
structure SignEnv extends Env where
  /-- `DESEncrypt.encoderByDES`, with the key first. -/
  encoderByDES : String → String → String
  /-- `DESEncrypt.decoderByDES`. -/
  decoderByDES : String → String → String
  /-- Whether an account and an app fit into `login_log`. -/
  fitsLog : String → String → Bool

/-- A row of `app_id`. -/
structure AppId where
  appId : String
  openId : String
  privateKey : String

/-- What logins and verifications throw. -/
inductive LoginError where
  /-- `PlatformException`. -/
  | platform (message : String) (code : ℕ)
  /-- `DataAccessException`. -/
  | dataAccess (cause : DataAccessException)
  /-- An account type that is no `Int`. -/
  | classCast
  /-- A token that must not be null. -/
  | nullPointer
  deriving DecidableEq, Repr

def ACCOUNT_NOT_NAME_OR_PASSWORD : ℕ := 30002
def ACCOUNT_PASSWORD_ERROR : ℕ := 30003
def ACCOUNT_NOT_APP_ID : ℕ := 30004
def ACCOUNT_SIGN_ERROR : ℕ := 30005
def ACCOUNT_TOKEN_ERROR : ℕ := 30006
def ACCOUNT_FREEZE : ℕ := 30011

/-- The message of a login. -/
structure LoginMsg where
  accountId : String
  accountName : String
  password : String
  /-- None, if this is no `Int`. -/
  accountType : Option Int32

/-- Where a login is in `newToken`. -/
inductive Stage where
  /-- Before it gets the token that is there. -/
  | fetch
  /-- Before it deletes a token. -/
  | erase
  /-- Before it gets a number. -/
  | number
  /-- Before it sets its token. -/
  | store (token : String)
  deriving DecidableEq, Repr

/-- A login under way. -/
structure NewToken where
  uid : String
  stage : Stage
  deriving DecidableEq, Repr

/-- A token that was set. -/
structure Stored where
  uid : String
  token : String
  time : ℤ
  deriving DecidableEq, Repr

/-- What `verify` returns. -/
structure Attach where
  token : String
  accountId : String
  admin : Int32
  deriving DecidableEq, Repr

/-- **The login service.** -/
structure LoginService where
  database : Database
  accountFreeze : List String
  accountAdmin : List String
  appIds : List AppId
  /-- The tokens, with the time at which they expire. -/
  redis : AList fun _ : String => String × ℤ
  tokenLong : Int64
  /-- `System.currentTimeMillis`. -/
  now : ℤ
  logins : List NewToken
  /-- The tokens that were set, the last one first. -/
  stored : List Stored

/-- Two days. -/
def timeout : ℤ := 2 * 24 * 60 * 60 * 1000

namespace LoginService

/-! ## What a login checks -/

section Checks

variable (env : SignEnv) (service : LoginService)

/-- **`passwordAuthentication`**: the account of a name. -/
def passwordAuthentication (name pwd : String) (type : Int32) : Except LoginError String :=
  match getAccountForName env.toEnv (some name) type service.database with
  | [] => throw (.platform "account not existence!~" ACCOUNT_NOT_EXISTENCE)
  | row :: _ =>
    if row.password ≠ some (changePassword env.md5Hex pwd) then
      throw (.platform "password is error!~" ACCOUNT_PASSWORD_ERROR)
    else
      match service.database.accountData.filter (fun data => data.id = row.aId) with
      | [] => throw (.dataAccess .emptyResult)
      | [data] => return data.uid
      | _ => throw (.dataAccess .incorrectResultSize)

/-- Throws if the account is frozen. -/
def checkFreeze (uid : String) : Except LoginError Unit :=
  if service.accountFreeze.any fun account => env.collate account = env.collate uid then
    throw (.platform "account is freeze!~" ACCOUNT_FREEZE)
  else return ()

/-- **`login`**: the account that gets a token. Who gives an account needs no password. -/
def login (msg : LoginMsg) : Except LoginError String :=
  if isEmpty msg.accountId then
    if isEmpty msg.accountName || isEmpty msg.password then
      throw (.platform "no password or name~" ACCOUNT_NOT_NAME_OR_PASSWORD)
    else
      match msg.accountType with
      | none => throw .classCast
      | some type => do
        let uid ← service.passwordAuthentication env msg.accountName msg.password type
        service.checkFreeze env uid
        return uid
  else if (getAid env.toEnv msg.accountId service.database).length ≠ 1 then
    throw (.platform "accountData not existence!~" ACCOUNT_NOT_EXISTENCE)
  else do
    service.checkFreeze env msg.accountId
    return msg.accountId

/-- The code of a wrong telephone number. -/
def PHONE_NUMBER_ERROR : ℕ := 3000

/-- **`loginverificationCode`**: an account that there is not is added, if it has eleven characters.
The account that gets a token, and the tables. -/
def loginverificationCode (accountId : String) : Except LoginError (String × Database) :=
  if accountId = "" then
    throw (.platform "request data accountData not existence!" ACCOUNT_NOT_EXISTENCE)
  else if (getAid env.toEnv accountId service.database).length ≠ 1 then
    if lengthUtf16 accountId ≠ 11 then
      throw (.platform "phonenumber is error!~" PHONE_NUMBER_ERROR)
    else if !env.fitsUid accountId then throw (.dataAccess .dataIntegrity)
    else
      return (accountId, { service.database with
        accountData := service.database.accountData ++
          [⟨service.database.lastData + 1, accountId, Int64.ofInt service.now, "0"⟩]
        lastData := service.database.lastData + 1 })
  else do
    service.checkFreeze env accountId
    return (accountId, service.database)

/-- **`getPrivateKey`**. -/
def getPrivateKey (appId openId : String) : Except LoginError String :=
  if appId = "" ∨ openId = "" then throw (.platform "no appId or openId~" ACCOUNT_NOT_APP_ID)
  else
    match service.appIds.filter fun row =>
      env.collate row.appId = env.collate appId && env.collate row.openId = env.collate openId with
    | [] => throw (.dataAccess .emptyResult)
    | [row] => return row.privateKey
    | _ => throw (.dataAccess .incorrectResultSize)

end Checks

/-! ## A new token -/

/-- The token of an account that has not expired. -/
def getToken (service : LoginService) (uid : String) : Option String :=
  ((service.redis.lookup uid).filter fun entry => service.now < entry.2).map Prod.fst

/-- A login comes to its next step. -/
def setLogin (service : LoginService) (ix : ℕ) (login : NewToken) : LoginService :=
  { service with logins := service.logins.set ix login }

/-- **The next step of `newToken`.** -/
def proceed (service : LoginService) (ix : ℕ) : LoginService :=
  match service.logins[ix]? with
  | none => service
  | some login =>
    match login.stage with
    | .fetch =>
      service.setLogin ix { login with
        stage := if (service.getToken login.uid).all isEmpty then .number else .erase }
    | .erase =>
      { service.setLogin ix { login with stage := .number } with
        redis := service.redis.erase login.uid }
    | .number =>
      { service.setLogin ix { login with stage := .store (toString32 (service.tokenLong + 1)) } with
        tokenLong := service.tokenLong + 1 }
    | .store token =>
      { service with
        logins := service.logins.eraseIdx ix
        redis := service.redis.insert login.uid (token, service.now + timeout)
        stored := ⟨login.uid, token, service.now⟩ :: service.stored }

/-- The sign that a login gets with its token, in `returnLoginMsg`. -/
def sign (env : SignEnv) (key token uid : String) : String :=
  env.encoderByDES key (token ++ "&" ++ uid)

/-! ## Verification -/

section Verify

variable (env : SignEnv) (service : LoginService)

/-- What `verify` reads from a sign: a token and an account that there is. -/
def readSign (appId openId sign : String) : Except LoginError (String × String) := do
  let key ← service.getPrivateKey env appId openId
  match signData (env.decoderByDES key sign) with
  | [token, accountId] =>
    if (getAid env.toEnv accountId service.database).length ≠ 1 then
      throw (.platform "account not existence!~" ACCOUNT_NOT_EXISTENCE)
    else return (token, accountId)
  | _ => throw (.platform "sign error!~" ACCOUNT_SIGN_ERROR)

/-- What `verify` does with them. -/
def checkToken (appId openId token accountId : String) : Except LoginError Attach :=
  match service.getToken accountId with
  | none => throw .nullPointer
  | some useToken =>
    if token = useToken then
      if !env.fitsLog accountId (appId ++ openId) then throw (.dataAccess .dataIntegrity)
      else
        let isAdmin := service.accountAdmin.any fun account =>
          env.collate account = env.collate accountId
        return ⟨token, accountId, if isAdmin then 1 else 0⟩
    else throw (.platform "token error !~" ACCOUNT_TOKEN_ERROR)

/-- **`verify`**. -/
def verify (appId openId sign : String) : Except LoginError Attach := do
  let (token, accountId) ← service.readSign env appId openId sign
  service.checkToken env appId openId token accountId

end Verify

/-! ## What happens -/

/-- What happens. -/
inductive Action where
  | login (msg : LoginMsg)
  | loginverificationCode (accountId : String)
  /-- A login does its next step. -/
  | proceed (ix : ℕ)
  /-- Others change the tables. -/
  | tables (database : Database) (accountFreeze accountAdmin : List String) (appIds : List AppId)
  | elapse (millis : ℕ)

/-- **What happens to the service.** -/
def step (env : SignEnv) (service : LoginService) : Action → LoginService
  | .login msg =>
    match service.login env msg with
    | .error _ => service
    | .ok uid => { service with logins := service.logins ++ [⟨uid, .fetch⟩] }
  | .loginverificationCode accountId =>
    match service.loginverificationCode env accountId with
    | .error _ => service
    | .ok (uid, database) =>
      { service with database := database, logins := service.logins ++ [⟨uid, .fetch⟩] }
  | .proceed ix => service.proceed ix
  | .tables database accountFreeze accountAdmin appIds =>
    { service with
      database := database
      accountFreeze := accountFreeze
      accountAdmin := accountAdmin
      appIds := appIds }
  | .elapse millis => { service with now := service.now + millis }

/-- The service when it has started, with these tables. -/
def start (database : Database) (accountFreeze accountAdmin : List String) (appIds : List AppId)
    (tokenLong : Int64) (now : ℤ) : LoginService where
  database := database
  accountFreeze := accountFreeze
  accountAdmin := accountAdmin
  appIds := appIds
  redis := ∅
  tokenLong := tokenLong
  now := now
  logins := []
  stored := []

end LoginService

end SrgpGame.Login
