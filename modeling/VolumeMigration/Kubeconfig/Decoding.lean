import VolumeMigration.Kubeconfig.Basic
import VolumeMigration.Yaml.Decoder

/-!
# Reading kubeconfigs

A kubeconfig is refused when a field that it may have has a value of the wrong type, whether or not
anything depends on that field. Other fields are ignored.
-/

namespace VolumeMigration

open Yaml (Decoder Fields)
open Yaml.Decoder (text flag plainData word list dictionary object optional ifGiven required)

/-- An extension of an entry, of which only the form is checked. -/
def decodeExtension : Decoder Unit := object fun fields => do
  let _ ← required "name" text fields
  required "extension" plainData fields

/-- Checks that extensions are well formed where they are given. -/
def checkExtensions (fields : Fields) : Option Unit := do
  let _ ← optional "extensions" (list decodeExtension) fields
  return ()

/-- Reads key material from two fields: one for data, one for the path of a file. -/
def KeyMaterial.decode (name : String) (fields : Fields) : Option KeyMaterial := do
  return {
    data := ← optional (name ++ "-data") text fields
    file := (← optional name text fields).map LocalPath.mk }

/-- A cluster, with what connecting to it takes. -/
def ClusterEntry.decode : Decoder ClusterEntry := object fun fields => do
  let _ ← optional "insecure-skip-tls-verify" flag fields
  let _ ← optional "disable-compression" flag fields
  checkExtensions fields
  return {
    server := ← optional "server" text fields
    authority := ← KeyMaterial.decode "certificate-authority" fields
    proxy := ← optional "proxy-url" text fields
    serverName := ← optional "tls-server-name" text fields }

/-- Reads a named way to learn who one is. -/
def AuthProvider.decode : Decoder AuthProvider := object fun fields => do
  return {
    name := ← required "name" text fields
    settings := ← ifGiven "config" [] (dictionary text) fields }

/-- Reads a program to ask who one is, which is not asked. -/
def decodeProgram : Decoder Unit := object fun fields => do
  let _ ← optional "apiVersion" text fields
  let _ ← optional "command" text fields
  let _ ← optional "args" (list text) fields
  let _ ← optional "env" (list (dictionary text)) fields
  let _ ← optional "interactiveMode" (word ["Never", "IfAvailable", "Always"]) fields
  let _ ← ifGiven "provideClusterInfo" false flag fields
  return ()

/-- A user, with its credentials in the order in which they are tried. -/
def UserEntry.decode : Decoder UserEntry := object fun fields => do
  return {
    username := ← optional "username" text fields
    password := ← optional "password" text fields
    token := ← optional "token" text fields
    tokenFile := (← optional "tokenFile" text fields).map LocalPath.mk
    certificate := ← KeyMaterial.decode "client-certificate" fields
    key := ← KeyMaterial.decode "client-key" fields
    actsFor := ← optional "as" text fields
    actsForGroups := (← optional "as-groups" (list text) fields).getD []
    provider := ← optional "auth-provider" AuthProvider.decode fields
    asksProgram := (← optional "exec" decodeProgram fields).isSome }

/-- A context, which has to name its cluster. -/
def ContextEntry.decode : Decoder ContextEntry := object fun fields => do
  checkExtensions fields
  return {
    cluster := ← required "cluster" text fields
    user := ← optional "user" text fields
    ns := ← optional "namespace" text fields }

/-- An entry of a list, whose value may be missing under its field. -/
def NamedEntry.decode {α : Type} (field : String) (value : Decoder α) : Decoder (NamedEntry α) :=
  object fun fields => do
    return { name := ← required "name" text fields, value := ← optional field value fields }

/-- The preferences of a file, which are checked and then dropped. -/
def decodePreferences : Decoder Unit := object fun fields => do
  let _ ← optional "colors" flag fields
  checkExtensions fields

/-- Reads a kubeconfig. Every part may be absent. -/
def Kubeconfig.decode : Decoder Kubeconfig := object fun fields => do
  let _ ← optional "preferences" decodePreferences fields
  checkExtensions fields
  return {
    clusters := ← ifGiven "clusters" [] (list (NamedEntry.decode "cluster" ClusterEntry.decode))
      fields
    users := ← ifGiven "users" [] (list (NamedEntry.decode "user" UserEntry.decode)) fields
    contexts := ← ifGiven "contexts" [] (list (NamedEntry.decode "context" ContextEntry.decode))
      fields
    currentContext := ← optional "current-context" text fields
    kind := ← optional "kind" text fields
    apiVersion := ← optional "apiVersion" text fields }

end VolumeMigration
