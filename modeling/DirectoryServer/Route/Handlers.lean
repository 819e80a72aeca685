import DirectoryServer.Route.Table

set_option autoImplicit false

namespace DirectoryServer.Handlers

variable {σ : Type}

def noop : Handler σ := fun _ _ _ => pure ()

def mismatched (context : Context) : Work σ Unit := do
  let _ ← context.writeOutcome ⟨.protocolError, ""⟩

def relay (context : Context) (question : σ → ResultCode × σ) : Work σ Unit :=
  .ask question fun code => do
    let _ ← context.writeOutcome ⟨code, ""⟩

def bindDiagnostic : ResultCode → String
  | .invalidCredentials => "invalid credentials"
  | .unwillingToPerform => "Authentication choice not supported"
  | _ => ""

def bind : Handler σ := fun request backend context =>
  match request with
  | .bind name mechanism credentials =>
      .ask (backend.bind name mechanism credentials) fun code =>
        .identify (if code.isSuccess then some name else none) do
          let _ ← context.writeOutcome ⟨code, bindDiagnostic code⟩
  | _ => mismatched context

def writeEntries (context : Context) : List Entry → Work σ Bool
  | [] => pure true
  | entry :: rest => do
      if ← context.cancelled then return false
      let _ ← context.write (.entry entry)
      writeEntries context rest

def finishSearch (context : Context) (code : ResultCode) : Work σ Unit := do
  if ← context.cancelled then return
  let _ ← context.writeOutcome ⟨code, ""⟩

def search : Handler σ := fun request backend context =>
  match request with
  | .search query => do
      if ← context.cancelled then return
      .search backend query fun found =>
        match found with
        | .ok entries => do
            if ← writeEntries context entries then finishSearch context .success
        | .error code => finishSearch context code
  | _ => mismatched context

def add : Handler σ := fun request backend context =>
  match request with
  | .add entry => relay context (backend.add entry)
  | _ => mismatched context

def modify : Handler σ := fun request backend context =>
  match request with
  | .modify name changes => relay context (backend.modify name changes)
  | _ => mismatched context

def delete : Handler σ := fun request backend context =>
  match request with
  | .delete name => relay context (backend.delete name)
  | _ => mismatched context

def compare : Handler σ := fun request backend context =>
  match request with
  | .compare name attr value => relay context (backend.compare name attr value)
  | _ => mismatched context

def abandon : Handler σ := fun request _ _ =>
  RouteTable.abandonUnrouted request

def notFound : Handler σ := fun request _ context =>
  match request with
  | .abandon _ => pure ()
  | _ => do
      let _ ← context.writeOutcome ⟨.unwillingToPerform, notImplemented⟩

def startTls : Handler σ := fun _ _ context =>
  let answer (code : ResultCode) (diagnostic : String) : Response :=
    .extended ⟨code, diagnostic⟩ (some startTlsName) none
  .transport fun secured available => do
    if secured then
      let _ ← context.write (answer .operationsError "TLS already established")
    else if available then
      let _ ← context.writeThenUpgrade (answer .success "")
    else
      let _ ← context.write (answer .unwillingToPerform "TLS is not configured")

def identityText : Option String → String
  | some name => "dn:" ++ name
  | none => ""

def whoAmI : Handler σ := fun _ _ context =>
  .identity fun name => do
    let _ ← context.write (.extended ⟨.success, ""⟩ none (some (Text.encode (identityText name))))

def synthetic (entry : Entry) : Handler σ := fun request _ context =>
  match request with
  | .search query =>
      match query.filter.evaluate entry with
      | .ok true => do
          let _ ← context.write (.entry (entry.project query.attributes))
          let _ ← context.writeOutcome ⟨.success, ""⟩
      | .ok false => do
          let _ ← context.writeOutcome ⟨.success, ""⟩
      | .error code => do
          let _ ← context.writeOutcome ⟨code, ""⟩
  | _ => mismatched context

end Handlers

structure RootDse where
  vendorName : String := "FlashDir"
  vendorVersion : String := "0.1.0"
  namingContext : String
deriving DecidableEq, Repr

def RootDse.entry (root : RootDse) : Entry :=
  ⟨"", [
    .ofText "vendorName" root.vendorName,
    .ofText "vendorVersion" root.vendorVersion,
    .ofText "objectClass" "top",
    .ofText "objectClass" "extensibleObject",
    .ofText "supportedLDAPVersion" "3",
    .ofText "namingContexts" root.namingContext,
    .ofText "supportedExtension" startTlsName,
    .ofText "supportedExtension" whoAmIName]⟩

def namingContextRoot (name : String) : Entry :=
  ⟨name, [.ofText "objectClass" "top", .ofText "objectClass" "organizationalUnit"]⟩

namespace RouteTable

variable {σ : Type}

def defaultList (backend : Backend σ) (root : RootDse) : List (Route σ) :=
  let null := Backend.null σ
  [({ operation := .search, handler := Handlers.synthetic root.entry, backend := null,
      label := "Search - root DSE" } : Route σ)
      |>.withSuffix "" |>.withScope .baseObject |>.withFilter "(objectclass=*)",
    ({ operation := .search,
       handler := Handlers.synthetic (namingContextRoot root.namingContext), backend := null,
       label := "Search - naming context root" } : Route σ)
      |>.withSuffix root.namingContext |>.withScope .baseObject,
    ({ operation := .extended, handler := Handlers.startTls, backend := null,
       label := "Extended - StartTLS" } : Route σ)
      |>.withExtendedName startTlsName,
    ({ operation := .extended, handler := Handlers.whoAmI, backend := null,
       label := "Extended - WhoAmI" } : Route σ)
      |>.withExtendedName whoAmIName,
    { operation := .abandon, handler := Handlers.abandon, backend := null, label := "Abandon" },
    { operation := .bind, handler := Handlers.bind, backend, label := "Bind" },
    { operation := .search, handler := Handlers.search, backend, label := "Search" },
    { operation := .add, handler := Handlers.add, backend, label := "Add" },
    { operation := .compare, handler := Handlers.compare, backend, label := "Compare" },
    { operation := .modify, handler := Handlers.modify, backend, label := "Modify" },
    { operation := .delete, handler := Handlers.delete, backend, label := "Delete" }]

def default (backend : Backend σ) (root : RootDse) : RouteTable σ :=
  { registerAll {} (defaultList backend root) with
    notFound := some { operation := .extended, handler := Handlers.notFound,
                       backend := Backend.null σ, label := "Not found" } }

end RouteTable

end DirectoryServer
