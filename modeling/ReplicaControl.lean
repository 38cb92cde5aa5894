import ReplicaControl.Agent.Flags
import ReplicaControl.Agent.Health
import ReplicaControl.Auth.Enable
import ReplicaControl.Certificate.Subject
import ReplicaControl.Cluster.ConnectionStrings
import ReplicaControl.Cluster.Credentials
import ReplicaControl.Cluster.Documents
import ReplicaControl.Digest
import ReplicaControl.Document.Override
import ReplicaControl.Json.Canonical
import ReplicaControl.Merge.Service
import ReplicaControl.Merge.StatefulSet
import ReplicaControl.Port
import ReplicaControl.Proofs.Auth.Agents
import ReplicaControl.Proofs.Auth.Installed
import ReplicaControl.Proofs.Certificate.Element
import ReplicaControl.Proofs.Certificate.Subject
import ReplicaControl.Proofs.Cluster.ConnectionStrings
import ReplicaControl.Proofs.Cluster.Credentials
import ReplicaControl.Proofs.Cluster.Documents
import ReplicaControl.Proofs.Cluster.Keys
import ReplicaControl.Proofs.Convergence.Verdict
import ReplicaControl.Proofs.Dict
import ReplicaControl.Proofs.Document.Codec
import ReplicaControl.Proofs.Document.Override
import ReplicaControl.Proofs.Document.References
import ReplicaControl.Proofs.Intent
import ReplicaControl.Proofs.Json.Arranged
import ReplicaControl.Proofs.Json.Codec
import ReplicaControl.Proofs.Merge.Keyed
import ReplicaControl.Proofs.Merge.Sources
import ReplicaControl.Proofs.Merge.Texts
import ReplicaControl.Proofs.Merge.Workload
import ReplicaControl.Proofs.ObjectName
import ReplicaControl.Proofs.Port.Exposure
import ReplicaControl.Proofs.Port.Migration
import ReplicaControl.Proofs.Port.Rollout
import ReplicaControl.Proofs.Scram
import ReplicaControl.Proofs.Text
import ReplicaControl.Proofs.Topology.Pods
import ReplicaControl.Proofs.Topology.Scaling
import ReplicaControl.Proofs.Topology.UserInfo
import ReplicaControl.Proofs.Version
import ReplicaControl.Proofs.Workload.Codec
import ReplicaControl.Quantity
import ReplicaControl.Scram
import ReplicaControl.Settings
import ReplicaControl.Text
import ReplicaControl.Topology.Build
import ReplicaControl.Topology.Scaling
import ReplicaControl.Unicode.Preparation
