import OAuthClientBridge.Usability
import OAuthClientBridge.OAuth.Amplification
import OAuthClientBridge.OAuth.Schedule
import OAuthClientBridge.OAuth.Accounting
import OAuthClientBridge.Authorizations
import OAuthClientBridge.Merge
import OAuthClientBridge.Provenance
import OAuthClientBridge.Utils.CoalescedRequests
import OAuthClientBridge.Utils.UrlRedaction
import OAuthClientBridge.Db.Refinement
import OAuthClientBridge.Db.Atomicity
import OAuthClientBridge.Rotation
import OAuthClientBridge.Scopes
import OAuthClientBridge.Secrecy
import OAuthClientBridge.Serializability
import OAuthClientBridge.Telemetry.CatchUp
import OAuthClientBridge.Lineage
import OAuthClientBridge.Db.Simulation
import OAuthClientBridge.Db.Upgrade
import OAuthClientBridge.Finality
import OAuthClientBridge.Telemetry.Otel
import OAuthClientBridge.Grants
import OAuthClientBridge.Views.Disguised
