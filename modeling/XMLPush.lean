import XMLPush.Lib.Nesting
import XMLPush.Proof.AttributeDictionary
import XMLPush.Proof.DataElements
import XMLPush.Proof.Chunks
import XMLPush.Proof.Filing
import XMLPush.Proof.Fields
import XMLPush.Proof.Rejection
import XMLPush.Proof.Reports
import XMLPush.Proof.Conversation
import XMLPush.Proof.Objects
import XMLPush.Proof.Decoding
import XMLPush.Proof.Namespaces
import XMLPush.Proof.Streams
import XMLPush.Proof.CallLedger
import XMLPush.Proof.TrapFreeDocuments
import XMLPush.Proof.Conversions
import XMLPush.Proof.RoundTrip
