import Shroud.Crypt.Hmac
import Shroud.Crypt.GcmSiv
import Shroud.Text.Quoted
import Shroud.Text.Lowercase
import Shroud.Text.Blank
import Shroud.Text.Base64Url
import Shroud.Decimal.Written
import Shroud.Calendar.Timestamp
import Shroud.Value.Dump
import Shroud.Json.Draft
import Shroud.Json.Writing
import Shroud.Declared.Erased
import Shroud.Declared.Linked
import Shroud.Declared.Arranged
import Shroud.Sealed.Exposed
import Shroud.Trial.Script
import Shroud.Log.Key
import Shroud.Log.Filter
import Shroud.Accounts.Settings
import Shroud.Accounts.Directory
import Shroud.Accounts.Problem
import Shroud.Accounts.Server
import Shroud.Accounts.Exchange
import Shroud.Proofs.Value.Selection
import Shroud.Proofs.Value.FirstFailure
import Shroud.Proofs.Value.Strip
import Shroud.Proofs.Value.Names
import Shroud.Proofs.Value.Within
import Shroud.Proofs.Value.InTurn
import Shroud.Proofs.Value.Editing
import Shroud.Proofs.Accounts.Recovery
import Shroud.Proofs.Declared.Restorable
import Shroud.Proofs.Declared.Duplicate
import Shroud.Proofs.Declared.Linked
import Shroud.Proofs.Declared.AsValue
import Shroud.Proofs.Declared.Entries
import Shroud.Proofs.Declared.Sharing
import Shroud.Proofs.Sealed.Layers
import Shroud.Proofs.Sealed.Keys
import Shroud.Proofs.Accounts.Access
import Shroud.Proofs.Accounts.Storage
import Shroud.Proofs.Accounts.Together
import Shroud.Proofs.Log.Sketch
import Shroud.Proofs.Log.Obscured
import Shroud.Proofs.Accounts.Veil
import Shroud.Proofs.Accounts.Covered
import Shroud.Proofs.Accounts.Secrecy
import Shroud.Proofs.Sealed.Form
import Shroud.Proofs.Accounts.Reveal
import Shroud.Proofs.Accounts.Password
import Shroud.Proofs.Log.Installed
import Shroud.Proofs.Log.Faithful
import Shroud.Proofs.Log.Text
import Shroud.Proofs.Accounts.Exchange
import Shroud.Proofs.Accounts.Settings
import Shroud.Proofs.Accounts.Directories
import Shroud.Proofs.Trial.Script
import Shroud.Proofs.Sealed.Exposed
import Shroud.Proofs.Value.Dump
