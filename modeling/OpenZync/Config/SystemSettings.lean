import OpenZync.Library.Dicts
import OpenZync.Library.FirstOccurrence
import OpenZync.Text

/-!
# Masked system settings

The settings of the system secret as a superadmin lists them.  Bullets stand for the
value of a secret; a URL loses the user and the password that a regular
expression finds in it, and its path with them.
-/

namespace OpenZync.Config

open OpenZync.Library

/-- `SYSTEM_KEY_MAPPING`, in its order. -/
def systemKeyMapping : List Text :=
  ["OZ_DATABASE_URL".toList, "OZ_REDIS_URL".toList, "OZ_SECRET_KEY".toList,
    "OZ_WEBHOOK_SIGNING_SECRET".toList, "OZ_PROMETHEUS_URL".toList, "OZ_ENVIRONMENT".toList,
    "OZ_LOG_LEVEL".toList, "OZ_CORS_ORIGINS".toList, "OZ_FRONTEND_URL".toList,
    "OZ_HOSTS_ALLOWED".toList, "OZ_MAX_WORKERS".toList, "OZ_LOW_MAX_WORKERS".toList,
    "OZ_JWT_ACCESS_TOKEN_TTL_MINUTES".toList, "OZ_JWT_REFRESH_TOKEN_TTL_DAYS".toList,
    "OZ_FALKORDB_URL".toList, "OZ_FALKORDB_MAX_CONNECTIONS".toList,
    "OZ_FALKORDB_SOCKET_TIMEOUT".toList, "OZ_SURREALDB_URL".toList,
    "OZ_OLLAMA_EMBED_URL".toList, "OZ_DB_POOL_SIZE".toList, "OZ_DB_MAX_OVERFLOW".toList,
    "OZ_TRUSTED_PROXY_IPS".toList, "OZ_RATE_LIMIT_IP_MAX".toList,
    "OZ_RATE_LIMIT_WINDOW_SEC".toList, "OZ_PROMPT_CACHING_ENABLED".toList,
    "OZ_PROMPT_CACHING_ANTHROPIC_MIN_TOKENS".toList, "OZ_PROMPT_CACHING_ANTHROPIC_TTL".toList,
    "OZ_SMTP_HOST".toList, "OZ_SMTP_PORT".toList, "OZ_SMTP_USERNAME".toList,
    "OZ_SMTP_PASSWORD".toList, "OZ_SMTP_FROM_ADDR".toList, "OZ_SMTP_USE_TLS".toList,
    "OZ_SMTP_START_TLS".toList, "OZ_ROOT_PASSWORD".toList]

/-- `_SECRET_KEYS`. -/
def secretKeys : List Text :=
  ["OZ_SECRET_KEY".toList, "OZ_WEBHOOK_SIGNING_SECRET".toList, "OZ_SMTP_PASSWORD".toList,
    "OZ_SMTP_USERNAME".toList, "OZ_ROOT_PASSWORD".toList]

/-- `_URL_KEYS`. -/
def urlKeys : List Text :=
  ["OZ_DATABASE_URL".toList, "OZ_REDIS_URL".toList, "OZ_FALKORDB_URL".toList,
    "OZ_SURREALDB_URL".toList]

/-- `_MASK`. -/
def mask : Text :=
  List.replicate 8 '\u2022'

/-- The separator `://` of a scheme. -/
def schemeEnd : Text :=
  [':', '/', '/']

/-- `[^/@]` -/
def userinfoChar (c : Char) : Bool :=
  c ≠ '/' && c ≠ '@'

/-- The length of a match whose `[^/@]+` is followed by a text. -/
def matchLength : Text → Text → Option Nat
  | c :: userinfo, '@' :: _ => some ((c :: userinfo).length + 4)
  | _, _ => none

/-- The length of the match of `_USERINFO_RE` at the start of a text. -/
def userinfoMatch : Text → Option Nat
  | ':' :: '/' :: '/' :: rest =>
      matchLength (rest.takeWhile userinfoChar) (rest.dropWhile userinfoChar)
  | _ => none

/-- `_USERINFO_RE.search(text) is not None` -/
def searchUserinfo : Text → Bool
  | [] => false
  | c :: rest => (userinfoMatch (c :: rest)).isSome || searchUserinfo rest

/-- `_USERINFO_RE.sub("://", text)`, behind the characters that a match has taken. -/
def subUserinfo : Nat → Text → Text
  | _, [] => []
  | taken + 1, _ :: rest => subUserinfo taken rest
  | 0, c :: rest =>
      match userinfoMatch (c :: rest) with
      | some length => schemeEnd ++ subUserinfo (length - 1) rest
      | none => c :: subUserinfo 0 rest

/-- `_mask_url`; there is a `://` to split at where the expression was found. -/
def maskUrl (value : Text) : Text :=
  if searchUserinfo value then
    match splitFirst schemeEnd (subUserinfo 0 value) with
    | some (scheme, rest) => scheme ++ schemeEnd ++ rest.takeWhile fun c => c ≠ '/'
    | none => value
  else value

/-- `_mask_value` -/
def maskValue (key value : Text) : Text :=
  if secretKeys.contains key then mask
  else if urlKeys.contains key then maskUrl value
  else value

/-- A masked setting; the category of a key is a constant of the schema. -/
structure SystemSettingItem where
  key : Text
  isSet : Bool
  maskedValue : Option Text
deriving DecidableEq

/-- An item of `list_system_settings`, where the secret has texts. -/
def systemSettingItem (raw : Dict Text Text) (key : Text) : SystemSettingItem :=
  { key := key
    isSet := (raw.get? key).any fun value => !value.isEmpty
    maskedValue := ((raw.get? key).filter fun value => !value.isEmpty).map (maskValue key) }

def listSystemSettings (raw : Dict Text Text) : List SystemSettingItem :=
  systemKeyMapping.map (systemSettingItem raw)

section Masks

variable {text before rest userinfo : Text} {c : Char}

theorem notMem_append_cons {d : Char} (left : c ∉ before) (different : c ≠ d)
    (right : c ∉ rest) : c ∉ before ++ d :: rest := by
  simp [left, different, right]

theorem userinfoMatch_of_ne (different : c ≠ ':') : userinfoMatch (c :: rest) = none := by
  unfold userinfoMatch
  split
  · rename_i equality
    exact (different (List.cons.inj equality).1).elim
  · rfl

theorem userinfoMatch_colon (single : ¬ ['/', '/'] <+: rest) :
    userinfoMatch (':' :: rest) = none := by
  unfold userinfoMatch
  split
  · rename_i after equality
    apply (single _).elim
    rw [(List.cons.inj equality).2]
    exact ⟨after, rfl⟩
  · rfl

/-- The user and the password of a URL, up to the first `@`. -/
structure Userinfo (userinfo : Text) : Prop where
  nonempty : userinfo ≠ []
  plain : ∀ c ∈ userinfo, userinfoChar c

theorem Userinfo.of_all (nonempty : userinfo ≠ []) (plain : userinfo.all userinfoChar = true) :
    Userinfo userinfo :=
  ⟨nonempty, List.all_eq_true.mp plain⟩

theorem userinfoChar_of_ne (notSlash : c ≠ '/') (notAt : c ≠ '@') : userinfoChar c = true := by
  simp [userinfoChar, notSlash, notAt]

theorem Userinfo.of_notMem (nonempty : userinfo ≠ []) (slashFree : '/' ∉ userinfo)
    (atFree : '@' ∉ userinfo) : Userinfo userinfo :=
  ⟨nonempty, fun _ member => userinfoChar_of_ne (fun equality => slashFree (equality ▸ member))
    fun equality => atFree (equality ▸ member)⟩

theorem Userinfo.userinfoMatch (plain : Userinfo userinfo) (rest : Text) :
    userinfoMatch (schemeEnd ++ (userinfo ++ '@' :: rest)) = some (userinfo.length + 4) := by
  have taken : (userinfo ++ '@' :: rest).takeWhile userinfoChar = userinfo := by
    rw [List.takeWhile_append_of_pos plain.plain]
    simp [userinfoChar]
  have dropped : (userinfo ++ '@' :: rest).dropWhile userinfoChar = '@' :: rest := by
    rw [List.dropWhile_append_of_pos plain.plain]
    simp [userinfoChar]
  change matchLength ((userinfo ++ '@' :: rest).takeWhile userinfoChar)
    ((userinfo ++ '@' :: rest).dropWhile userinfoChar) = _
  rw [taken, dropped]
  cases userinfo with
  | nil => exact (plain.nonempty rfl).elim
  | cons c userinfo => rfl

theorem subUserinfo_taken (taken text : Text) :
    subUserinfo taken.length (taken ++ text) = subUserinfo 0 text := by
  induction taken with
  | nil => rfl
  | cons c taken induction => exact induction

theorem subUserinfo_match {length : Nat} (found : userinfoMatch (c :: rest) = some length) :
    subUserinfo 0 (c :: rest) = schemeEnd ++ subUserinfo (length - 1) rest := by
  simp only [subUserinfo, found]

theorem subUserinfo_cons (unmatched : userinfoMatch (c :: rest) = none) :
    subUserinfo 0 (c :: rest) = c :: subUserinfo 0 rest := by
  simp only [subUserinfo, unmatched]

theorem subUserinfo_append (absent : ':' ∉ before) :
    subUserinfo 0 (before ++ text) = before ++ subUserinfo 0 text := by
  induction before with
  | nil => rfl
  | cons c before induction =>
      have different : c ≠ ':' := by
        rintro rfl
        exact absent List.mem_cons_self
      rw [List.cons_append, subUserinfo_cons (userinfoMatch_of_ne different),
        induction fun member => absent (List.mem_cons_of_mem c member)]
      rfl

theorem searchUserinfo_append (absent : ':' ∉ before) :
    searchUserinfo (before ++ text) = searchUserinfo text := by
  induction before with
  | nil => rfl
  | cons c before induction =>
      have different : c ≠ ':' := by
        rintro rfl
        exact absent List.mem_cons_self
      rw [List.cons_append, searchUserinfo, userinfoMatch_of_ne different,
        induction fun member => absent (List.mem_cons_of_mem c member)]
      rfl

theorem maskUrl_of_subUserinfo {value scheme : Text} (colonFree : ':' ∉ scheme)
    (found : searchUserinfo value = true)
    (replaced : subUserinfo 0 value = scheme ++ (schemeEnd ++ rest)) :
    maskUrl value = scheme ++ schemeEnd ++ rest.takeWhile fun c => c ≠ '/' := by
  have first : splitFirst [':', '/', '/'] (schemeEnd ++ rest) = some ([], rest) :=
    splitFirst_of_prefix (List.cons_ne_nil _ _) _
  have split : splitFirst schemeEnd (subUserinfo 0 value) = some (scheme, rest) := by
    rw [replaced]
    apply (splitFirst_append_left ['/', '/'] scheme _ colonFree).trans
    rw [first, Option.map_some, List.append_nil]
  rw [maskUrl, if_pos found, split]

/-- The credentials give way to the separator in front of them. -/
theorem Userinfo.subUserinfo (plain : Userinfo userinfo) (rest : Text) :
    subUserinfo 0 (schemeEnd ++ (userinfo ++ '@' :: rest)) =
      schemeEnd ++ Config.subUserinfo 0 rest := by
  have taken := subUserinfo_taken ('/' :: '/' :: (userinfo ++ ['@'])) rest
  rw [← taken]
  apply (subUserinfo_match (plain.userinfoMatch rest)).trans
  congr 2
  · simp
  · simp

theorem Userinfo.searchUserinfo (plain : Userinfo userinfo) (rest : Text) :
    searchUserinfo (schemeEnd ++ (userinfo ++ '@' :: rest)) = true := by
  apply Bool.or_eq_true_iff.mpr
  exact .inl (Option.isSome_iff_exists.mpr ⟨_, plain.userinfoMatch rest⟩)

/-- A slash in front of the first `@` ends a match without it. -/
theorem matchLength_of_slash (slash : '/' ∈ userinfo) (atFree : '@' ∉ userinfo) (rest : Text) :
    matchLength ((userinfo ++ rest).takeWhile userinfoChar)
      ((userinfo ++ rest).dropWhile userinfoChar) = none := by
  have stops : ∃ after, (userinfo ++ rest).dropWhile userinfoChar = '/' :: after := by
    induction userinfo with
    | nil => cases slash
    | cons c userinfo induction =>
        by_cases here : c = '/'
        · subst here
          exact ⟨userinfo ++ rest, rfl⟩
        · have passed : userinfoChar c = true := by
            have notAt : c ≠ '@' := by
              rintro rfl
              exact atFree List.mem_cons_self
            exact userinfoChar_of_ne here notAt
          rw [List.cons_append, List.dropWhile_cons_of_pos passed]
          rcases List.mem_cons.mp slash with equality | slash
          · exact (here equality.symm).elim
          · exact induction slash fun member => atFree (List.mem_cons_of_mem c member)
  obtain ⟨after, stops⟩ := stops
  rw [stops]
  cases (userinfo ++ rest).takeWhile userinfoChar with
  | nil => rfl
  | cons c taken => rfl

theorem searchUserinfo_cons (unmatched : userinfoMatch (c :: rest) = none) :
    searchUserinfo (c :: rest) = searchUserinfo rest := by
  rw [searchUserinfo, unmatched]
  rfl

theorem searchUserinfo_of_absent (absent : ':' ∉ text) : searchUserinfo text = false := by
  have searched : searchUserinfo (text ++ []) = searchUserinfo [] := searchUserinfo_append absent
  rwa [List.append_nil] at searched

/-- What precedes the first `/` of the rest of a URL is kept. -/
theorem subUserinfo_host {host path : Text} (slashFree : '/' ∉ host)
    (absolute : ∀ c ∈ path.head?, c = '/') (single : ¬ ['/', '/'] <+: path) :
    (subUserinfo 0 (host ++ path)).takeWhile (fun c => c ≠ '/') = host := by
  induction host with
  | nil =>
      cases path with
      | nil => rfl
      | cons c path =>
          obtain rfl := absolute c rfl
          rw [List.nil_append, subUserinfo_cons (userinfoMatch_of_ne (by decide))]
          rfl
  | cons c host induction =>
      have unmatched : userinfoMatch (c :: (host ++ path)) = none := by
        by_cases colon : c = ':'
        · subst colon
          apply userinfoMatch_colon
          intro starts
          cases host with
          | nil => exact single starts
          | cons d host =>
              have slash := (List.cons_prefix_cons.mp starts).1
              exact slashFree (by rw [slash]; simp)
        · exact userinfoMatch_of_ne colon
      have different : c ≠ '/' := by
        rintro rfl
        exact slashFree List.mem_cons_self
      rw [List.cons_append, subUserinfo_cons unmatched, List.takeWhile_cons_of_pos (by simpa),
        induction fun member => slashFree (List.mem_cons_of_mem c member)]

/-- A URL is cut behind its first credentials. -/
theorem maskUrl_userinfo {scheme : Text} (colonFree : ':' ∉ scheme) (plain : Userinfo userinfo)
    (rest : Text) :
    maskUrl (scheme ++ (schemeEnd ++ (userinfo ++ '@' :: rest))) =
      scheme ++ schemeEnd ++ (subUserinfo 0 rest).takeWhile fun c => c ≠ '/' := by
  apply maskUrl_of_subUserinfo colonFree
  · rw [searchUserinfo_append colonFree, plain.searchUserinfo]
  · rw [subUserinfo_append colonFree, plain.subUserinfo]

end Masks

/-- A URL with credentials in front of its host. -/
structure CredentialedUrl where
  scheme : Text
  userinfo : Text
  host : Text
  path : Text
  colonFree : ':' ∉ scheme
  plain : Userinfo userinfo
  slashFree : '/' ∉ host
  absolute : ∀ c ∈ path.head?, c = '/'
  single : ¬ ['/', '/'] <+: path

def CredentialedUrl.text (url : CredentialedUrl) : Text :=
  url.scheme ++ (schemeEnd ++ (url.userinfo ++ '@' :: (url.host ++ url.path)))

theorem CredentialedUrl.text_ne_nil (url : CredentialedUrl) : url.text ≠ [] := by
  intro empty
  have nothing := List.append_eq_nil_iff.mp empty
  cases nothing.2

theorem CredentialedUrl.maskUrl_text (url : CredentialedUrl) :
    maskUrl url.text = url.scheme ++ schemeEnd ++ url.host := by
  rw [text, maskUrl_userinfo url.colonFree url.plain,
    subUserinfo_host url.slashFree url.absolute url.single]

/-- Two values of a key that the list of the settings does not tell apart. -/
inductive Alike (key : Text) : Text → Text → Prop
  | same (value : Text) : Alike key value value
  | secret {first second : Text} (member : key ∈ secretKeys) (left : first ≠ [])
      (right : second ≠ []) : Alike key first second
  | credentials {first second : CredentialedUrl} (visible : key ∉ secretKeys)
      (member : key ∈ urlKeys) (schemes : first.scheme = second.scheme)
      (hosts : first.host = second.host) : Alike key first.text second.text

theorem Alike.isEmpty {key first second : Text} (alike : Alike key first second) :
    first.isEmpty = second.isEmpty := by
  cases alike with
  | same => rfl
  | secret member left right =>
      rw [List.isEmpty_eq_false_iff.mpr left, List.isEmpty_eq_false_iff.mpr right]
  | @credentials first second =>
      rw [List.isEmpty_eq_false_iff.mpr first.text_ne_nil,
        List.isEmpty_eq_false_iff.mpr second.text_ne_nil]

theorem Alike.maskValue {key first second : Text} (alike : Alike key first second) :
    maskValue key first = maskValue key second := by
  cases alike with
  | same => rfl
  | secret member left right => simp only [Config.maskValue, List.contains_iff_mem, if_pos member]
  | credentials visible member schemes hosts =>
      simp only [Config.maskValue, List.contains_iff_mem, if_neg visible, if_pos member,
        CredentialedUrl.maskUrl_text, schemes, hosts]

theorem systemSettingItem_congr {first second : Dict Text Text} {key : Text}
    (alike : Option.Rel (Alike key) (first.get? key) (second.get? key)) :
    systemSettingItem first key = systemSettingItem second key := by
  simp only [systemSettingItem]
  generalize first.get? key = left at alike ⊢
  generalize second.get? key = right at alike ⊢
  cases alike with
  | none => rfl
  | some alike =>
      simp only [Option.any_some, Option.filter_some, alike.isEmpty]
      split
      · simp only [Option.map_some, alike.maskValue]
      · rfl

/-- Secrets that differ in their secret values and in the credentials of their URLs
are listed the same. -/
theorem listSystemSettings_congr {first second : Dict Text Text}
    (alike : ∀ key ∈ systemKeyMapping,
      Option.Rel (Alike key) (first.get? key) (second.get? key)) :
    listSystemSettings first = listSystemSettings second :=
  List.map_congr_left fun key member => systemSettingItem_congr (alike key member)

/-- A secret of two keys, with the database's URL and the key of the tokens. -/
def storedPair (url : CredentialedUrl) (secretKey : Text) : Dict Text Text :=
  (Dict.empty.set "OZ_DATABASE_URL".toList url.text).set "OZ_SECRET_KEY".toList secretKey

def appUrl (password : Text) (plain : Userinfo ("app:".toList ++ password)) : CredentialedUrl :=
  { scheme := "postgresql".toList
    userinfo := "app:".toList ++ password
    host := "db:5432".toList
    path := "/openzync".toList
    colonFree := by decide
    plain := plain
    slashFree := by decide
    absolute := fun _ found => (Option.some.inj found).symm
    single := by decide }

/-- The two secrets of a rotation of the password and of the key. -/
theorem listSystemSettings_congr_rotation :
    listSystemSettings (storedPair (appUrl "old".toList (.of_all (by decide) rfl)) "k".toList) =
      listSystemSettings
        (storedPair (appUrl "new".toList (.of_all (by decide) rfl)) "key".toList) := by
  refine listSystemSettings_congr fun key _ => ?_
  rw [storedPair, storedPair, Dict.get?_set, Dict.get?_set, Dict.get?_set, Dict.get?_set]
  by_cases secret : key = "OZ_SECRET_KEY".toList
  · subst secret
    exact .some (.secret (by decide) (by decide) (by decide))
  · rw [if_neg secret, if_neg secret]
    by_cases url : key = "OZ_DATABASE_URL".toList
    · subst url
      exact .some (.credentials (by decide) (by decide) rfl rfl)
    · rw [if_neg url, if_neg url]
      exact .none

/-- The part of `db-creds.json` that the application gets; the password is generated
in base 64. -/
structure DbCreds where
  app : Text
  appUser : Text
  dbHost : Text
  dbPort : Text
  dbName : Text
  base64 : ∀ c ∈ app, c ≠ ':' ∧ c ≠ '@'
  plain : ∀ c ∈ appUser ++ dbHost ++ dbPort ++ dbName, c ≠ ':' ∧ c ≠ '/' ∧ c ≠ '@'

def databaseScheme : Text :=
  "postgresql+asyncpg".toList

/-- `database_url` of `write_db_to_openbao.sh`. -/
def databaseUrl (creds : DbCreds) : Text :=
  databaseScheme ++ schemeEnd ++ creds.appUser ++ [':'] ++ creds.app ++ ['@'] ++
    creds.dbHost ++ [':'] ++ creds.dbPort ++ ['/'] ++ creds.dbName

/-- The merge of `write_db_to_openbao.sh`. -/
def mergeDatabaseUrl (existing : Dict Text Text) (creds : DbCreds) : Dict Text Text :=
  ((existing.set "OZ_DATABASE_URL".toList (databaseUrl creds)).set "DATABASE_URL".toList
    (databaseUrl creds)).set "database_url".toList (databaseUrl creds)

namespace DbCreds

variable {creds : DbCreds} {c : Char}

def userinfo (creds : DbCreds) : Text :=
  creds.appUser ++ ':' :: creds.app

/-- What follows the credentials. -/
def server (creds : DbCreds) : Text :=
  creds.dbHost ++ ':' :: (creds.dbPort ++ '/' :: creds.dbName)

/-- A password with a slash, unless it makes credentials of its own. -/
def Exposed (creds : DbCreds) : Prop :=
  '/' ∈ creds.app ∧ ∀ tail, creds.app = '/' :: '/' :: tail → ¬ Userinfo tail

theorem plain_of_subset (creds : DbCreds) {part : Text}
    (inside : part ⊆ creds.appUser ++ creds.dbHost ++ creds.dbPort ++ creds.dbName) :
    ':' ∉ part ∧ '/' ∉ part ∧ '@' ∉ part :=
  ⟨fun member => (creds.plain _ (inside member)).1 rfl,
    fun member => (creds.plain _ (inside member)).2.1 rfl,
    fun member => (creds.plain _ (inside member)).2.2 rfl⟩

theorem appUser_plain (creds : DbCreds) :
    ':' ∉ creds.appUser ∧ '/' ∉ creds.appUser ∧ '@' ∉ creds.appUser :=
  creds.plain_of_subset fun _ member => by simp [member]

theorem dbHost_plain (creds : DbCreds) :
    ':' ∉ creds.dbHost ∧ '/' ∉ creds.dbHost ∧ '@' ∉ creds.dbHost :=
  creds.plain_of_subset fun _ member => by simp [member]

theorem dbPort_plain (creds : DbCreds) :
    ':' ∉ creds.dbPort ∧ '/' ∉ creds.dbPort ∧ '@' ∉ creds.dbPort :=
  creds.plain_of_subset fun _ member => by simp [member]

theorem dbName_plain (creds : DbCreds) :
    ':' ∉ creds.dbName ∧ '/' ∉ creds.dbName ∧ '@' ∉ creds.dbName :=
  creds.plain_of_subset fun _ member => by simp [member]

theorem app_base64 (creds : DbCreds) : ':' ∉ creds.app ∧ '@' ∉ creds.app :=
  ⟨fun member => (creds.base64 _ member).1 rfl, fun member => (creds.base64 _ member).2 rfl⟩

theorem databaseUrl_eq (creds : DbCreds) :
    databaseUrl creds =
      databaseScheme ++ (schemeEnd ++ (creds.userinfo ++ '@' :: creds.server)) := by
  simp only [databaseUrl, userinfo, server, List.append_assoc, List.cons_append, List.nil_append]

theorem at_notMem_userinfo (creds : DbCreds) : '@' ∉ creds.userinfo :=
  notMem_append_cons creds.appUser_plain.2.2 (by decide) creds.app_base64.2

theorem userinfo_unmatched (slashed : '/' ∈ creds.app) :
    userinfoMatch (schemeEnd ++ (creds.userinfo ++ '@' :: creds.server)) = none :=
  matchLength_of_slash (by simp [userinfo, slashed]) creds.at_notMem_userinfo _

theorem colon_notMem_user (creds : DbCreds) : ':' ∉ ['/', '/'] ++ creds.appUser := by
  intro member
  rcases List.mem_append.mp member with slashes | user
  · exact absurd slashes (by decide)
  · exact creds.appUser_plain.1 user

/-- No `//` follows the port. -/
theorem port_single (creds : DbCreds) :
    ¬ ['/', '/'] <+: creds.dbPort ++ '/' :: creds.dbName := by
  intro starts
  cases port : creds.dbPort with
  | nil =>
      rw [port, List.nil_append, List.cons_prefix_cons] at starts
      cases name : creds.dbName with
      | nil =>
          rw [name] at starts
          exact absurd starts.2.length_le (by simp)
      | cons c name' =>
          rw [name, List.cons_prefix_cons] at starts
          apply creds.dbName_plain.2.1
          rw [name, ← starts.2.1]
          exact List.mem_cons_self
  | cons c port' =>
      rw [port, List.cons_append, List.cons_prefix_cons] at starts
      apply creds.dbPort_plain.2.1
      rw [port, ← starts.1]
      exact List.mem_cons_self

theorem searchUserinfo_server (creds : DbCreds) : searchUserinfo creds.server = false := by
  have endColonFree : ':' ∉ creds.dbPort ++ '/' :: creds.dbName :=
    notMem_append_cons creds.dbPort_plain.1 (by decide) creds.dbName_plain.1
  rw [server, searchUserinfo_append creds.dbHost_plain.1,
    searchUserinfo_cons (userinfoMatch_colon creds.port_single)]
  exact searchUserinfo_of_absent endColonFree

theorem password_unmatched (exposed : creds.Exposed) :
    userinfoMatch (':' :: (creds.app ++ '@' :: creds.server)) = none := by
  by_cases double : ['/', '/'] <+: creds.app
  · obtain ⟨tail, password⟩ := double
    have password : creds.app = '/' :: '/' :: tail := password.symm
    have atFree : '@' ∉ tail := fun member =>
      (creds.base64 _ (by rw [password]; simp [member])).2 rfl
    rw [password]
    change matchLength ((tail ++ '@' :: creds.server).takeWhile userinfoChar)
      ((tail ++ '@' :: creds.server).dropWhile userinfoChar) = none
    by_cases slash : '/' ∈ tail
    · exact matchLength_of_slash slash atFree _
    · cases tail with
      | nil => rfl
      | cons c tail =>
          have plain : Userinfo (c :: tail) := .of_notMem (List.cons_ne_nil c tail) slash atFree
          exact (exposed.2 _ password plain).elim
  · apply userinfoMatch_colon
    intro starts
    apply double
    rwa [prefix_append_of_absent (by simp)] at starts

theorem searchUserinfo_exposed (exposed : creds.Exposed) :
    searchUserinfo (databaseUrl creds) = false := by
  have passwordColonFree : ':' ∉ creds.app ++ ['@'] :=
    notMem_append_cons creds.app_base64.1 (by decide) List.not_mem_nil
  have assembled : ['/', '/'] ++ (creds.userinfo ++ '@' :: creds.server) =
      (['/', '/'] ++ creds.appUser) ++ ':' :: (creds.app ++ '@' :: creds.server) := by
    simp [userinfo]
  have behind : creds.app ++ '@' :: creds.server = (creds.app ++ ['@']) ++ creds.server := by
    simp
  rw [databaseUrl_eq, searchUserinfo_append (by decide)]
  apply (searchUserinfo_cons (userinfo_unmatched exposed.1)).trans
  apply (congrArg searchUserinfo assembled).trans
  rw [searchUserinfo_append creds.colon_notMem_user,
    searchUserinfo_cons (password_unmatched exposed), behind,
    searchUserinfo_append passwordColonFree, searchUserinfo_server]

/-- A password without a slash is cut, and the database with it. -/
theorem maskUrl_unslashed (unslashed : '/' ∉ creds.app) :
    maskUrl (databaseUrl creds) =
      databaseScheme ++ schemeEnd ++ (creds.dbHost ++ ':' :: creds.dbPort) := by
  have userinfoSlashFree : '/' ∉ creds.userinfo :=
    notMem_append_cons creds.appUser_plain.2.1 (by decide) unslashed
  have plain : Userinfo creds.userinfo :=
    .of_notMem (by simp [userinfo]) userinfoSlashFree creds.at_notMem_userinfo
  have slashFree : '/' ∉ creds.dbHost ++ ':' :: creds.dbPort :=
    notMem_append_cons creds.dbHost_plain.2.1 (by decide) creds.dbPort_plain.2.1
  have single : ¬ ['/', '/'] <+: '/' :: creds.dbName := by
    intro starts
    have next := (List.cons_prefix_cons.mp starts).2
    exact creds.dbName_plain.2.1 (next.subset List.mem_cons_self)
  have assembled : creds.server = (creds.dbHost ++ ':' :: creds.dbPort) ++ '/' :: creds.dbName := by
    simp [server]
  rw [databaseUrl_eq, maskUrl_userinfo (by decide) plain, assembled,
    subUserinfo_host slashFree (by simp) single]

/-- A password that starts with `//` and goes on without a slash leaves the user
behind. -/
theorem maskUrl_double {tail : Text} (password : creds.app = '/' :: '/' :: tail)
    (plain : Userinfo tail) :
    maskUrl (databaseUrl creds) = databaseScheme ++ schemeEnd ++ (creds.appUser ++ [':']) := by
  have assembled : creds.userinfo ++ '@' :: creds.server =
      creds.appUser ++ (schemeEnd ++ (tail ++ '@' :: creds.server)) := by
    simp [userinfo, password, schemeEnd]
  have slashed : '/' ∈ creds.app := by
    rw [password]
    exact List.mem_cons_self
  have unmatched := userinfo_unmatched slashed
  have found : searchUserinfo (databaseUrl creds) = true := by
    rw [databaseUrl_eq, searchUserinfo_append (by decide)]
    apply (searchUserinfo_cons unmatched).trans
    rw [assembled]
    apply (searchUserinfo_append creds.colon_notMem_user).trans
    exact plain.searchUserinfo _
  have replaced : subUserinfo 0 (databaseUrl creds) = databaseScheme ++
      (schemeEnd ++ (creds.appUser ++ (schemeEnd ++ subUserinfo 0 creds.server))) := by
    rw [databaseUrl_eq, subUserinfo_append (by decide)]
    congr 1
    apply (subUserinfo_cons unmatched).trans
    rw [assembled]
    apply congrArg (List.cons ':')
    apply (subUserinfo_append creds.colon_notMem_user).trans
    rw [plain.subUserinfo]
    rfl
  have kept : (creds.appUser ++ (schemeEnd ++ subUserinfo 0 creds.server)).takeWhile
      (fun c => c ≠ '/') = creds.appUser ++ [':'] := by
    have plainUser : ∀ c ∈ creds.appUser, decide (c ≠ '/') = true := fun c member =>
      decide_eq_true fun equality => creds.appUser_plain.2.1 (equality ▸ member)
    rw [List.takeWhile_append_of_pos plainUser]
    rfl
  rw [maskUrl_of_subUserinfo (by decide) found replaced, kept]

theorem at_notMem_masked {host : Text} (atFree : '@' ∉ host) :
    databaseScheme ++ schemeEnd ++ host ≠ databaseUrl creds := by
  intro equality
  have member : '@' ∈ databaseScheme ++ schemeEnd ++ host := by
    rw [equality, databaseUrl_eq]
    simp
  rcases List.mem_append.mp member with front | host
  · exact absurd front (by decide)
  · exact atFree host

theorem maskUrl_databaseUrl_iff :
    maskUrl (databaseUrl creds) = databaseUrl creds ↔ creds.Exposed := by
  constructor
  · intro shown
    by_cases slashed : '/' ∈ creds.app
    · refine ⟨slashed, fun tail password plain => ?_⟩
      rw [maskUrl_double password plain] at shown
      exact at_notMem_masked
        (notMem_append_cons creds.appUser_plain.2.2 (by decide) List.not_mem_nil) shown
    · rw [maskUrl_unslashed slashed] at shown
      exact (at_notMem_masked (notMem_append_cons creds.dbHost_plain.2.2 (by decide)
        creds.dbPort_plain.2.2) shown).elim
  · intro exposed
    rw [maskUrl, searchUserinfo_exposed exposed]
    rfl

end DbCreds

theorem systemSettingItem_of_visibleUrl {raw : Dict Text Text} {key value : Text}
    (visible : key ∉ secretKeys) (url : key ∈ urlKeys) (stored : raw.get? key = some value)
    (nonempty : value ≠ []) :
    systemSettingItem raw key =
      { key := key, isSet := true, maskedValue := some (maskUrl value) } := by
  simp [systemSettingItem, stored, maskValue, visible, url, nonempty]

theorem get?_mergeDatabaseUrl (existing : Dict Text Text) (creds : DbCreds) :
    (mergeDatabaseUrl existing creds).get? "OZ_DATABASE_URL".toList =
      some (databaseUrl creds) := by
  rw [mergeDatabaseUrl, Dict.get?_set, if_neg (by decide), Dict.get?_set, if_neg (by decide),
    Dict.get?_set, if_pos rfl]

/-- The generated URL of the database is listed as it is, password included, exactly if
its password is exposed; without a slash in it, only the server is listed. -/
theorem databaseUrl_listed_iff (existing : Dict Text Text) (creds : DbCreds) :
    (⟨"OZ_DATABASE_URL".toList, true, some (databaseUrl creds)⟩ ∈
        listSystemSettings (mergeDatabaseUrl existing creds) ↔ creds.Exposed) ∧
      ('/' ∉ creds.app →
        ⟨"OZ_DATABASE_URL".toList, true,
            some (databaseScheme ++ schemeEnd ++ (creds.dbHost ++ ':' :: creds.dbPort))⟩ ∈
          listSystemSettings (mergeDatabaseUrl existing creds)) := by
  have nonempty : databaseUrl creds ≠ [] := by
    rw [creds.databaseUrl_eq]
    exact List.append_ne_nil_of_left_ne_nil (by decide) _
  have item := systemSettingItem_of_visibleUrl (by decide) (by decide)
    (get?_mergeDatabaseUrl existing creds) nonempty
  have known : "OZ_DATABASE_URL".toList ∈ systemKeyMapping := by decide
  have listed : systemSettingItem (mergeDatabaseUrl existing creds) "OZ_DATABASE_URL".toList ∈
      listSystemSettings (mergeDatabaseUrl existing creds) :=
    List.mem_map_of_mem known
  rw [item] at listed
  refine ⟨⟨fun shown => ?_, fun exposed => ?_⟩, fun unslashed => ?_⟩
  · obtain ⟨key, -, same⟩ := List.mem_map.mp shown
    have keys : key = "OZ_DATABASE_URL".toList := congrArg SystemSettingItem.key same
    rw [keys, item] at same
    have values := congrArg SystemSettingItem.maskedValue same
    exact DbCreds.maskUrl_databaseUrl_iff.mp (Option.some.inj values)
  · rwa [DbCreds.maskUrl_databaseUrl_iff.mpr exposed] at listed
  · rwa [DbCreds.maskUrl_unslashed unslashed] at listed

/-- Generated credentials; the password has a slash. -/
def slashedCreds : DbCreds where
  app := "q7/Zk0+dVw==".toList
  appUser := "openzync_app".toList
  dbHost := "postgres".toList
  dbPort := "5432".toList
  dbName := "openzync".toList
  base64 := by simp
  plain := by simp

theorem databaseUrl_listed_slashedCreds :
    ⟨"OZ_DATABASE_URL".toList, true, some (databaseUrl slashedCreds)⟩ ∈
      listSystemSettings (mergeDatabaseUrl .empty slashedCreds) := by
  apply (databaseUrl_listed_iff .empty slashedCreds).1.mpr
  refine ⟨by decide, ?_⟩
  intro tail double
  have first : some 'q' = some '/' := congrArg List.head? double
  exact absurd first (by decide)

end OpenZync.Config
