import IMessageBridge.Basic
import IMessageBridge.Plist
import IMessageBridge.Codec
import IMessageBridge.Anisette
import IMessageBridge.Account
import IMessageBridge.Tokens
import IMessageBridge.Login
import IMessageBridge.TwoFactor
import IMessageBridge.Driver
import IMessageBridge.Session
import IMessageBridge.Restore
import IMessageBridge.GetToken
import IMessageBridge.RichLink
import IMessageBridge.Receive
import IMessageBridge.Outgoing
import IMessageBridge.Validation
import IMessageBridge.Config
import IMessageBridge.Grandslam
import IMessageBridge.AccountReads
import IMessageBridge.AccountRun
import IMessageBridge.Persist
import IMessageBridge.Inbound
