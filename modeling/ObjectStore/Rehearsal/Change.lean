import ObjectStore.Client.Basic
import ObjectStore.Rehearsal.Policy

/-!
Changes that a script makes to a client between two operations.
-/

namespace ObjectStore.Rehearsal

inductive Change where
  | primaryHost (host : Option String)
  | secondaryHost (host : Option String)
  | mode (mode : Option (Named Mode))
  | budget (budget : Timeout Number)
  | timeout (limit : Timeout Number)
  | protocol (name : Option String)
  | version (version : Value)
  | agent (agent : Value)
  | authentication (authentication : Authentication)
  | retry (policy : Option PolicyChoice)
  | account (name : Option String)
  | key (key : Value)
  | token (token : Option String)
  | proxy (host port user password : Value)

def changeConnection (f : Connection Number → Connection Number) (client : Client World Number) :
    Client World Number :=
  { client with connection := f client.connection }

def changeSender (f : Request.Sender → Request.Sender) (client : Client World Number) :
    Client World Number :=
  { client with sender := f client.sender }

/-- New credentials do not change how the client authenticates. -/
def changeCredentials (f : Credentials → Credentials) (client : Client World Number) :
    Client World Number :=
  { client with credentials := f client.credentials }

def Change.apply (change : Change) (client : Client World Number) : Client World Number :=
  match change with
  | primaryHost host => { client with primaryHost := host }
  | secondaryHost host => { client with secondaryHost := host }
  | mode m => { client with mode := m }
  | budget seconds => { client with budget := seconds }
  | timeout limit => changeConnection (fun c => { c with timeout := limit }) client
  | protocol name => changeConnection (fun c => { c with protocol := name }) client
  | version v => changeSender (fun s => { s with version := v }) client
  | agent v => changeSender (fun s => { s with agent := v }) client
  | authentication a => { client with authentication := a }
  | retry policy => { client with retry := policy.map PolicyChoice.policy }
  | account name => changeCredentials (fun c => { c with account := name }) client
  | key v => changeCredentials (fun c => { c with key := v }) client
  | token t => changeCredentials (fun c => { c with token := t }) client
  | proxy host port user password => changeConnection (·.setProxy host port user password) client

def changeClient (changes : List Change) (client : Client World Number) : Client World Number :=
  changes.foldl (fun client change => change.apply client) client

end ObjectStore.Rehearsal
